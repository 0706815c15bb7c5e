import BlockVolume.Path
import BlockVolume.Text
import Mathlib.Data.List.Lex
import Mathlib.Tactic.SplitIfs

namespace BlockVolume

theorem Text.eq_of_map_toNat {s t : String}
    (h : s.toList.map Char.toNat = t.toList.map Char.toNat) : s = t :=
  String.toList_inj.1 (List.map_injective_iff.2 (fun _ _ hcd => Char.toNat_inj.1 hcd) h)

namespace Text.Utf8

theorem ofNat_cons_lt {m n : Nat} (hm : m < 256) (hn : n < 256) (xs ys : List UInt8) :
    UInt8.ofNat m :: xs < UInt8.ofNat n :: ys ↔ m < n ∨ m = n ∧ xs < ys := by
  rw [List.cons_lt_cons_iff, UInt8.lt_iff_toNat_lt, ← UInt8.toNat_inj, UInt8.toNat_ofNat',
    UInt8.toNat_ofNat', Nat.mod_eq_of_lt hm, Nat.mod_eq_of_lt hn]

theorem encodeChar_append_lt {c d : Char} (h : c.toNat < d.toNat) (xs ys : List UInt8) :
    String.utf8EncodeChar c ++ xs < String.utf8EncodeChar d ++ ys := by
  have hd : d.val.toNat < 0x110000 := by
    rcases d.valid with hd | hd
    · exact Nat.lt_trans hd (by decide)
    · exact hd.2
  replace h : c.val.toNat < d.val.toNat := h
  generalize hm : c.val.toNat = m at h
  generalize hn : d.val.toNat = n at h hd
  -- the octets after the first one are digits to the base 64, and numbers are ordered as these are
  have hlex (m n : Nat) : m < n → m / 64 < n / 64 ∨ m / 64 = n / 64 ∧ m % 64 < n % 64 := by omega
  have hlex₁ := hlex m n h
  have hlex₂ := hlex (m / 64) (n / 64)
  have hlex₃ := hlex (m / 4096) (n / 4096)
  have hdigits (n : Nat) (hn : n < 0x110000) :
      n / 64 / 64 = n / 4096 ∧ n / 4096 / 64 = n / 262144 ∧ n / 262144 % 8 = n / 262144 := by
    omega
  have hm' := hdigits m (Nat.lt_trans h hd)
  have hn' := hdigits n hd
  simp only [String.utf8EncodeChar, hm, hn]
  split_ifs
  all_goals
    simp (disch := omega) only [List.cons_append, List.nil_append, ofNat_cons_lt]
    omega

theorem encode_lt_of_lt {s t : String} (h : s.toList.map Char.toNat < t.toList.map Char.toNat) :
    encode s < encode t := by
  unfold encode
  generalize s.toList = cs at h ⊢
  generalize t.toList = ds at h ⊢
  induction cs generalizing ds with
  | nil =>
      cases ds with
      | nil => cases h
      | cons d ds =>
          obtain ⟨b, bs, hd⟩ := List.exists_cons_of_ne_nil (String.utf8EncodeChar_ne_nil (c := d))
          rw [List.flatMap_nil, List.flatMap_cons, hd]
          exact .nil
  | cons c cs ih =>
      cases ds with
      | nil => cases h
      | cons d ds =>
          rw [List.map_cons, List.map_cons, List.cons_lt_cons_iff] at h
          rw [List.flatMap_cons, List.flatMap_cons]
          rcases h with h | ⟨h, hrest⟩
          · exact encodeChar_append_lt h _ _
          · rw [Char.toNat_inj.1 h]
            exact List.append_left_lt (ih ds hrest)

/-- Texts are ordered by their octets just as they are by their characters. -/
theorem encode_lt_encode {s t : String} :
    encode s < encode t ↔ s.toList.map Char.toNat < t.toList.map Char.toNat := by
  refine ⟨fun h => ?_, encode_lt_of_lt⟩
  rcases lt_trichotomy (s.toList.map Char.toNat) (t.toList.map Char.toNat) with hlt | heq | hgt
  · exact hlt
  · rw [eq_of_map_toNat heq] at h
    exact absurd h (List.lt_irrefl _)
  · exact absurd h (List.lt_asymm (encode_lt_of_lt hgt))

end Text.Utf8

namespace Component

def rank : Component → Nat
  | .root => 0
  | .here => 1
  | .up => 2
  | .name _ => 3

/-- Steps are ordered by their kinds, and names by their octets. -/
inductive Precedes : Component → Component → Prop
  | kind {a b : Component} (h : a.rank < b.rank) : Precedes a b
  | name {s t : String} (h : Text.Utf8.encode s < Text.Utf8.encode t) :
      Precedes (.name s) (.name t)

theorem precedes_iff {a b : Component} : a.Precedes b ↔ a.key < b.key := by
  constructor
  · rintro (h | h)
    · cases a <;> cases b
      all_goals simp [rank, key, List.cons_lt_cons_iff] at h ⊢
    · rw [key, key, List.cons_lt_cons_iff]
      exact .inr ⟨rfl, Text.Utf8.encode_lt_encode.1 h⟩
  · intro h
    by_cases hrank : a.rank < b.rank
    · exact .kind hrank
    · cases a <;> cases b
      case name.name s t =>
        have hchars : s.toList.map Char.toNat < t.toList.map Char.toNat := by
          simpa [key, List.cons_lt_cons_iff] using h
        exact .name (Text.Utf8.encode_lt_encode.2 hchars)
      all_goals simp_all [rank, key, List.cons_lt_cons_iff]

theorem key_injective : Function.Injective Component.key := by
  intro a b h
  cases a <;> cases b
  case name.name s t =>
    have hchars : s.toList.map Char.toNat = t.toList.map Char.toNat := by simpa [key] using h
    rw [Text.eq_of_map_toNat hchars]
  all_goals first | rfl | simp [key] at h

end Component

namespace Path

variable {p q : Path}

def Precedes (p q : Path) : Prop := List.Lex Component.Precedes p.components q.components

theorem precedes_iff : p.Precedes q ↔ p.key < q.key := by
  rw [Precedes, key, key]
  generalize p.components = as
  generalize q.components = bs
  constructor
  · intro h
    induction h with
    | nil => exact .nil
    | cons _ ih => exact .cons ih
    | rel h => exact .rel (Component.precedes_iff.1 h)
  · intro h
    induction as generalizing bs with
    | nil =>
        cases bs with
        | nil => cases h
        | cons b bs => exact .nil
    | cons a as ih =>
        cases bs with
        | nil => cases h
        | cons b bs =>
            rw [List.map_cons, List.map_cons, List.cons_lt_cons_iff] at h
            rcases h with h | ⟨h, hrest⟩
            · exact .rel (Component.precedes_iff.2 h)
            · rw [Component.key_injective h]
              exact .cons (ih bs hrest)

theorem Precedes.ne (h : p.Precedes q) : p.components ≠ q.components := by
  intro heq
  rw [precedes_iff, key, key, heq] at h
  exact List.lt_irrefl _ h

theorem key_eq_iff : p.key = q.key ↔ p.components = q.components :=
  (List.map_injective_iff.2 Component.key_injective).eq_iff

theorem le_iff_not_precedes : le p q = true ↔ ¬ q.Precedes p := by
  have hlt : (fun a b : List Nat => a.lex b Nat.blt = true) = (· < ·) := by
    funext a b
    rw [List.lex_eq_true_iff_lex]
    simp only [Nat.blt_eq]
    rfl
  rw [le, Bool.not_eq_true', ← Bool.not_eq_true, List.lex_eq_true_iff_lex, hlt, precedes_iff]
  rfl

theorem le_iff : le p q = true ↔ p.key ≤ q.key := by
  rw [le_iff_not_precedes, precedes_iff, not_lt]

theorem le_of_le_of_le (p q r : Path) (hpq : le p q = true) (hqr : le q r = true) :
    le p r = true := by
  rw [le_iff] at hpq hqr ⊢
  exact hpq.trans hqr

theorem le_or_le (p q : Path) : (le p q || le q p) = true := by
  rw [Bool.or_eq_true, le_iff, le_iff]
  exact le_total p.key q.key

theorem key_lt_of_le (h : p.key ≤ q.key) (hne : p.same q = false) : p.key < q.key := by
  rw [Path.same, beq_eq_false_iff_ne, Ne, ← key_eq_iff] at hne
  exact lt_of_le_of_ne h hne

end Path

end BlockVolume
