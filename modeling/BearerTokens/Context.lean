/-! # What a token is asked for

A context lists scopes in order, may carry a claims challenge, and may name the request that needs
the token.  Two contexts are equivalent when a token for one serves the other: the same scopes in
the same order and the same claims.  The correlation id plays no part in that.
-/

namespace BearerTokens

structure Context where
  scopes : List String := []
  claims : Option String := none
  correlation : Option String := none
deriving DecidableEq, Inhabited

namespace Context

/-- A token for one context serves the other. -/
def Equivalent (a b : Context) : Prop := a.scopes = b.scopes ∧ a.claims = b.claims

instance (a b : Context) : Decidable (a.Equivalent b) :=
  inferInstanceAs (Decidable (_ ∧ _))

theorem Equivalent.refl (a : Context) : a.Equivalent a := ⟨rfl, rfl⟩

theorem Equivalent.symm {a b : Context} (h : a.Equivalent b) : b.Equivalent a :=
  ⟨h.1.symm, h.2.symm⟩

theorem Equivalent.trans {a b c : Context} (h : a.Equivalent b) (k : b.Equivalent c) :
    a.Equivalent c := ⟨h.1.trans k.1, h.2.trans k.2⟩

def withScopes (c : Context) (scopes : List String) : Context := { c with scopes }

def withClaims (c : Context) (claims : String) : Context := { c with claims := some claims }

def withCorrelation (c : Context) (id : String) : Context := { c with correlation := some id }

end Context

end BearerTokens
