/-! # Texts as bytes -/

namespace BearerTokens.Text

def utf8 (s : String) : List UInt8 := s.toUTF8.data.toList

def ofUtf8? (bytes : List UInt8) : Option String := String.fromUTF8? ⟨bytes.toArray⟩

theorem utf8_append (s t : String) : utf8 (s ++ t) = utf8 s ++ utf8 t := by
  simp [utf8]

theorem ofUtf8?_utf8 (s : String) : ofUtf8? (utf8 s) = some s := by
  simp [ofUtf8?, utf8, String.fromUTF8?, s.isValidUTF8, String.fromUTF8]

theorem utf8_ne_nil {s : String} (h : s ≠ "") : utf8 s ≠ [] := by
  intro hnone
  have hback := ofUtf8?_utf8 s
  rw [hnone] at hback
  have hempty : ofUtf8? [] = some "" := ofUtf8?_utf8 ""
  rw [hempty] at hback
  exact h (Option.some.inj hback).symm

end BearerTokens.Text
