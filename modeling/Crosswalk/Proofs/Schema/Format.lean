import Crosswalk.Proofs.Number.Binary64
import Crosswalk.Proofs.Schema.Record

/-!
Numbers that are read are numbers of the format.

Digits of a text and decimals are rounded to the format, and so are integers. A number that a value
holds is taken as it is, so what is read of values in the format is in the format.
-/

namespace Crosswalk

lemma Decimal.toBinary64_canonical (d : Decimal) : d.toBinary64.Canonical := by
  cases d with
  | finite s c e => exact Binary64.ofDigits_canonical s c e
  | _ => trivial

namespace Codec

lemma canonical_of_floatOfWord? {cs : List Char} {x : Binary64} (h : floatOfWord? cs = some x) :
    x.Canonical := by
  unfold floatOfWord? at h
  dsimp only at h
  split_ifs at h
  · cases h
    trivial
  · cases h
    trivial
  · obtain ⟨n, -, rfl⟩ := Option.map_eq_some_iff.1 h
    exact Binary64.ofDigits_canonical _ _ _

/-- A number that is read is one of the format, if the numbers among the values are. -/
lemma canonical_of_readFloat {v : Value} {x : Binary64} (h : readFloat v = .ok x)
    (hv : ∀ y, v = .float y → y.Canonical) : x.Canonical := by
  -- numbers are rounded to the format, and texts are read into it
  cases v with
  | bool b =>
    cases h
    exact Binary64.ofRatio_canonical _ _ _
  | int n =>
    rw [readFloat] at h
    split at h
    · cases h
    · cases h
      exact Binary64.ofRatio_canonical _ _ _
  | float y =>
    cases h
    exact hv _ rfl
  | decimal d =>
    cases h
    exact d.toBinary64_canonical
  | text s =>
    rw [readFloat] at h
    split at h
    case h_1 y hy =>
      cases h
      obtain hword | ⟨-, hword⟩ := Option.or_eq_some_iff.1 hy
      · exact canonical_of_floatOfWord? hword
      · obtain ⟨cs, -, hword⟩ := Option.bind_eq_some_iff.1 hword
        exact canonical_of_floatOfWord? hword
    case h_2 => cases h
  | _ => cases h

end Codec

namespace Field

variable {α : Type} {f : Field α} {t : Table Value}

lemma mem_of_given? {k : String} {v : Value} (h : f.given? t = some (k, v)) : (k, v) ∈ t := by
  unfold given? at h
  split at h
  case h_1 w hw =>
    cases h
    exact Table.mem_of_get? hw
  case h_2 =>
    obtain ⟨w, hw, heq⟩ := Option.map_eq_some_iff.1 h
    cases heq
    exact Table.mem_of_get? hw

lemma given_or_default_of_read {x : α} (h : f.read t = .ok x) :
    (∃ p ∈ t, f.codec.read p.2 = .ok x) ∨ f.default = some x := by
  unfold read at h
  split at h
  case h_1 k v hv => exact .inl ⟨_, mem_of_given? hv, Reading.under_eq_ok.1 h⟩
  case h_2 =>
    split at h
    case h_1 y hy =>
      cases h
      exact .inr hy
    case h_2 => cases h

/-- The numbers among the values of a record are numbers of the format. -/
def InFormat (data : Table Value) : Prop := ∀ p ∈ data, ∀ x, p.2 = .float x → x.Canonical

lemma canonical_of_read_optional {name : String} {data : Table Value} {number : Option Binary64}
    (hdata : InFormat data) (h : (optional name .float).read data = .ok number) :
    ∀ x ∈ number, x.Canonical := by
  rintro x rfl
  obtain ⟨p, hp, hread⟩ | hdefault := given_or_default_of_read h
  · exact Codec.canonical_of_readFloat (Codec.read_of_nullable hread) (hdata p hp)
  · cases hdefault

end Field

end Crosswalk
