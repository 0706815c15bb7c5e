import BlockVolume.MountTable
import BlockVolume.Proofs.Text.Pieces
import Mathlib.Data.List.DropRight

namespace BlockVolume

namespace Path

def withSlashes (p : Path) (n : Nat) : Path := ⟨p.text ++ String.ofList (List.replicate n '/')⟩

/-- Two texts that differ by slashes at their ends only. The root is spelled `/` and not otherwise. -/
def SpelledAs (p q : Path) : Prop :=
  (∃ (stem : Path) (m n : Nat), p = stem.withSlashes m ∧ q = stem.withSlashes n) ∧
    (p.text = "/" ↔ q.text = "/")

/-- The steps are written out with single slashes between them. More slashes may follow, but not
after the root. -/
def Tidy (p : Path) : Prop :=
  ∃ n, p = (ofComponents p.components).withSlashes n ∧ (p.components = [.root] → n = 0)

variable {p q : Path} {n : Nat}

theorem toList_withSlashes (p : Path) (n : Nat) :
    (p.withSlashes n).text.toList = p.text.toList ++ List.replicate n '/' := by
  rw [withSlashes, String.toList_append, String.toList_ofList]

theorem eq_of_text {text : String} (h : p.text = text) : p = ⟨text⟩ := by
  cases p with
  | mk _ => exact congrArg Path.mk h

theorem eq_of_toList_text (h : p.text.toList = q.text.toList) : p = q :=
  eq_of_text (String.toList_inj.1 h)

theorem withSlashes_zero (p : Path) : p.withSlashes 0 = p :=
  eq_of_toList_text (by rw [toList_withSlashes, List.replicate_zero, List.append_nil])

theorem withSlashes_empty (n : Nat) : withSlashes ⟨""⟩ (n + 1) = withSlashes ⟨"/"⟩ n :=
  eq_of_toList_text (by simp [toList_withSlashes, List.replicate_succ])

theorem withSlashes_text_eq_slash (hp : p.text ≠ "") :
    (p.withSlashes n).text = "/" ↔ p.text = "/" ∧ n = 0 := by
  have hne : p.text.toList ≠ [] := by simpa using hp
  have hslash : "/".toList = ['/'] := rfl
  rw [← String.toList_inj, ← String.toList_inj, toList_withSlashes, hslash,
    List.append_eq_singleton_iff]
  simp [hne]

theorem components_withSlashes (hp : p.text ≠ "") (n : Nat) :
    (p.withSlashes n).components = p.components := by
  induction n with
  | zero => rw [withSlashes_zero]
  | succ n ih =>
      have hne : (p.withSlashes n).text.toList ≠ [] := by simp [toList_withSlashes, hp]
      have htext : (p.withSlashes (n + 1)).text.toList =
          (p.withSlashes n).text.toList ++ '/' :: [] := by
        rw [toList_withSlashes, toList_withSlashes, List.replicate_succ', List.append_assoc]
      have hpieces := Text.splitAt_ne_nil '/' (p.withSlashes n).text.toList
      rw [← ih, components, components, isAbsolute, isAbsolute, htext, Text.splitAt_append,
        List.filterMap_append, List.head?_append_of_ne_nil _ hne,
        List.head?_append_of_ne_nil _ hpieces]
      simp [Text.splitAt, Component.ofPiece?]

theorem SpelledAs.refl (p : Path) : p.SpelledAs p :=
  ⟨⟨p, 0, 0, p.withSlashes_zero.symm, p.withSlashes_zero.symm⟩, .rfl⟩

theorem rdropWhile_append_slashes (cs : List Char) (n : Nat) :
    (cs ++ List.replicate n '/').rdropWhile (· = '/') = cs.rdropWhile (· = '/') := by
  induction n with
  | zero => rw [List.replicate_zero, List.append_nil]
  | succ n ih =>
      rw [List.replicate_succ', ← List.append_assoc, List.rdropWhile_concat_pos _ _ _ (by simp), ih]

theorem exists_append_slashes (cs : List Char) :
    ∃ n, cs = cs.rdropWhile (· = '/') ++ List.replicate n '/' := by
  induction cs using List.reverseRecOn with
  | nil => exact ⟨0, rfl⟩
  | append_singleton cs c ih =>
      by_cases hc : c = '/'
      · obtain ⟨n, hn⟩ := ih
        refine ⟨n + 1, ?_⟩
        rw [List.rdropWhile_concat_pos _ _ _ (by simpa using hc), List.replicate_succ',
          ← List.append_assoc, ← hn, hc]
      · exact ⟨0, by rw [List.rdropWhile_concat_neg _ _ _ (by simpa using hc), List.replicate_zero,
          List.append_nil]⟩

theorem rdropWhile_slashes_ne (cs : List Char) : cs.rdropWhile (· = '/') ≠ ['/'] := by
  intro h
  have hlast := List.rdropWhile_last_not (· = '/') cs (by rw [h]; exact List.cons_ne_nil _ _)
  simp [h] at hlast

theorem spelledAs_iff : p.SpelledAs q ↔
    p.text.toList.rdropWhile (· = '/') = q.text.toList.rdropWhile (· = '/') ∧
      (p.text = "/" ↔ q.text = "/") := by
  rw [SpelledAs, and_congr_left_iff]
  intro _
  constructor
  · rintro ⟨stem, m, n, rfl, rfl⟩
    simp only [toList_withSlashes, rdropWhile_append_slashes]
  · intro h
    obtain ⟨m, hm⟩ := exists_append_slashes p.text.toList
    obtain ⟨n, hn⟩ := exists_append_slashes q.text.toList
    rw [← h] at hn
    refine ⟨⟨String.ofList (p.text.toList.rdropWhile (· = '/'))⟩, m, n, ?_, ?_⟩
    · exact eq_of_toList_text (by rw [toList_withSlashes, String.toList_ofList, ← hm])
    · exact eq_of_toList_text (by rw [toList_withSlashes, String.toList_ofList, ← hn])

instance (p q : Path) : Decidable (p.SpelledAs q) :=
  decidable_of_iff _ spelledAs_iff.symm

theorem withSlashes_spelledAs (hp : p.text ≠ "") (h : p.text ≠ "/" ∨ n = 0) :
    (p.withSlashes n).SpelledAs p := by
  refine ⟨⟨p, n, 0, rfl, p.withSlashes_zero.symm⟩, ?_⟩
  rw [withSlashes_text_eq_slash hp, and_iff_left_iff_imp]
  exact h.resolve_left ∘ not_not_intro

theorem root_withSlashes_spelledAs (hp : p.text = "/") (hn : n ≠ 0) :
    (p.withSlashes n).SpelledAs ⟨""⟩ := by
  have htext : (p.withSlashes n).text ≠ "/" := by
    rw [Ne, withSlashes_text_eq_slash (by simp [hp])]
    exact fun h => hn h.2
  obtain rfl := eq_of_text hp
  exact ⟨⟨⟨""⟩, n + 1, 0, (withSlashes_empty n).symm, (withSlashes_zero _).symm⟩,
    iff_of_false htext (by decide)⟩

theorem SpelledAs.components_eq (h : p.SpelledAs q) (hp : p.text ≠ "") (hq : q.text ≠ "") :
    p.components = q.components := by
  obtain ⟨⟨stem, m, n, rfl, rfl⟩, -⟩ := h
  by_cases hstem : stem.text = ""
  · obtain rfl := eq_of_text hstem
    cases m with
    | zero => exact absurd rfl hp
    | succ m =>
        cases n with
        | zero => exact absurd rfl hq
        | succ n =>
            rw [withSlashes_empty, withSlashes_empty, components_withSlashes (by decide),
              components_withSlashes (by decide)]
  · rw [components_withSlashes hstem, components_withSlashes hstem]

theorem Tidy.spelledAs (hp : p.Tidy) (hq : q.Tidy) (h : p.components = q.components) :
    p.SpelledAs q := by
  obtain ⟨m, hm, hmroot⟩ := hp
  obtain ⟨n, hn, hnroot⟩ := hq
  rw [h] at hm hmroot
  refine ⟨⟨_, m, n, hm, hn⟩, ?_⟩
  by_cases hroot : q.components = [.root]
  · rw [hmroot hroot] at hm
    rw [hnroot hroot] at hn
    rw [hm.trans hn.symm]
  · have hne {r : Path} (hr : r.components ≠ [.root]) : r.text ≠ "/" := by
      intro htext
      obtain rfl := eq_of_text htext
      exact hr rfl
    exact iff_of_false (hne (h ▸ hroot)) (hne hroot)

end Path

namespace MountTable

variable {p q : Path} {n : Nat} {entries : List MountEntry} {e : MountEntry}

def LastAt (here : MountEntry → Prop) (entries : List MountEntry) (e : MountEntry) : Prop :=
  ∃ before after, entries = before ++ e :: after ∧ here e ∧ ∀ later ∈ after, ¬ here later

theorem LastAt.mem {here : MountEntry → Prop} (h : LastAt here entries e) : e ∈ entries := by
  obtain ⟨before, after, rfl, -⟩ := h
  exact List.mem_append_cons_self

theorem LastAt.here {here : MountEntry → Prop} (h : LastAt here entries e) : here e := by
  obtain ⟨-, -, -, he, -⟩ := h
  exact he

theorem LastAt.congr {here there : MountEntry → Prop} (hsame : ∀ e ∈ entries, here e ↔ there e)
    (h : LastAt here entries e) : LastAt there entries e := by
  obtain ⟨before, after, rfl, he, hafter⟩ := h
  refine ⟨before, after, rfl, (hsame e List.mem_append_cons_self).1 he, fun later hlater => ?_⟩
  have hmem : later ∈ before ++ e :: after := List.mem_append_right _ (.tail e hlater)
  exact fun hthere => hafter later hlater ((hsame later hmem).2 hthere)

theorem lookupText_eq (p : Path) :
    lookupText p = if p.text = "/" then ['/'] else p.text.toList.rdropWhile (· = '/') := by
  split
  · next hroot =>
      rw [lookupText, hroot]
      rfl
  · next hroot =>
      have hroot : p.text.toList ≠ ['/'] := fun h => hroot (String.toList_inj.1 h)
      rw [lookupText]
      match hcs : p.text.toList with
      | [] => rfl
      | [c] =>
          have hc : c ≠ '/' := by
            rintro rfl
            exact hroot hcs
          simp [List.rdropWhile_singleton, hc]
      | c :: d :: cs => rfl

theorem lookupText_eq_iff : lookupText p = lookupText q ↔ p.SpelledAs q := by
  have hsingle (r : Path) : r.text.toList.rdropWhile (· = '/') ≠ ['/'] :=
    Path.rdropWhile_slashes_ne _
  rw [lookupText_eq, lookupText_eq, Path.spelledAs_iff]
  by_cases hp : p.text = "/"
  · by_cases hq : q.text = "/"
    · simp only [hp, hq, if_true, and_self]
    · simp only [hp, hq, if_true, if_false, (hsingle q).symm, iff_false, not_true, and_false]
  · by_cases hq : q.text = "/"
    · simp only [hp, hq, if_true, if_false, hsingle p, iff_true, and_false]
    · simp only [hp, hq, if_false, and_true]

theorem find_eq_find? (p : Path) (entries : List MountEntry) :
    find p entries = entries.reverse.find? fun e => decide (e.mountPoint.SpelledAs p) := by
  rw [find]
  refine congrArg (List.find? · entries.reverse) (funext fun e => ?_)
  rw [Bool.eq_iff_iff, beq_iff_eq, decide_eq_true_eq, lookupText_eq_iff]

theorem find?_reverse_eq_some_iff {here : MountEntry → Prop} [DecidablePred here] :
    (entries.reverse.find? fun e => decide (here e)) = some e ↔ LastAt here entries e := by
  rw [List.find?_eq_some_iff_append, LastAt]
  simp only [decide_eq_true_eq, Bool.not_eq_true', decide_eq_false_iff_not]
  constructor
  · rintro ⟨he, later, earlier, hentries, hlater⟩
    refine ⟨earlier.reverse, later.reverse, ?_, he, by simpa using hlater⟩
    rw [List.reverse_eq_iff] at hentries
    simpa using hentries
  · rintro ⟨before, after, rfl, he, hafter⟩
    exact ⟨he, after.reverse, before.reverse, by simp, by simpa using hafter⟩

theorem find_eq_none_iff :
    find p entries = none ↔ ∀ e ∈ entries, ¬ e.mountPoint.SpelledAs p := by
  simp [find_eq_find?]

theorem isMounted_eq_false :
    isMounted p entries = false ↔ ∀ e ∈ entries, ¬ e.mountPoint.SpelledAs p := by
  rw [isMounted, Option.isSome_eq_false_iff, Option.isNone_iff_eq_none, find_eq_none_iff]

theorem find_eq_some_iff :
    find p entries = some e ↔ LastAt (fun e => e.mountPoint.SpelledAs p) entries e := by
  rw [find_eq_find?, find?_reverse_eq_some_iff]

theorem find_concat (entries : List MountEntry) (e : MountEntry) :
    find e.mountPoint (entries ++ [e]) = some e :=
  find_eq_some_iff.2 ⟨entries, [], rfl, .refl _, nofun⟩

theorem find_congr (h : p.SpelledAs q) (entries : List MountEntry) :
    find p entries = find q entries ∧ isMounted p entries = isMounted q entries := by
  have hfind : find p entries = find q entries := by rw [find, find, lookupText_eq_iff.2 h]
  exact ⟨hfind, by rw [isMounted, isMounted, hfind]⟩

/-- Slashes after a path do not matter to a look-up, unless they follow the one slash of the root,
which is then looked up as the empty path is. -/
theorem find_withSlashes {p : Path} (hp : p.text ≠ "") (n : Nat) :
    ((∀ entries, find (p.withSlashes n) entries = find p entries ∧
        isMounted (p.withSlashes n) entries = isMounted p entries) ↔ p.text ≠ "/" ∨ n = 0) ∧
      (p.text = "/" → n ≠ 0 → ∀ entries, find (p.withSlashes n) entries = find ⟨""⟩ entries ∧
        isMounted (p.withSlashes n) entries = isMounted ⟨""⟩ entries) := by
  refine ⟨⟨fun hsame => ?_, fun h => find_congr (Path.withSlashes_spelledAs hp h)⟩, fun hroot hn =>
    find_congr (Path.root_withSlashes_spelledAs hroot hn)⟩
  by_contra! h
  obtain ⟨hroot, hn⟩ := h
  -- the slashes hide a mount on the root
  have hfound : isMounted ⟨""⟩ [⟨p, "", ""⟩] = isMounted p [⟨p, "", ""⟩] :=
    (find_congr (Path.root_withSlashes_spelledAs hroot hn) _).2.symm.trans (hsame _).2
  obtain rfl := Path.eq_of_text hroot
  exact absurd hfound (by decide)

theorem find_withSlashes_shadowed :
    let entries : List MountEntry :=
      [⟨⟨"/mnt/a b"⟩, "ext4", "/dev/sdb"⟩, ⟨⟨"/mnt/a b//"⟩, "xfs", "/dev/sdc"⟩,
        ⟨⟨"/mnt"⟩, "ext4", "/dev/sdd"⟩]
    (⟨"/mnt/a b/"⟩ : Path).text ≠ "" ∧
      find (Path.withSlashes ⟨"/mnt/a b/"⟩ 3) entries =
        some ⟨⟨"/mnt/a b//"⟩, "xfs", "/dev/sdc"⟩ := by
  intro entries
  have hne : (⟨"/mnt/a b/"⟩ : Path).text ≠ "" := by decide
  have hsame := (find_withSlashes hne 3).1.2 (.inl (by decide)) entries
  exact ⟨hne, hsame.1.trans (by decide)⟩

theorem find_root_withSlashes :
    let entries := parse "36 28 0:31 / / rw - ext4 /dev/sda3 rw\n"
    (Path.withSlashes ⟨"/"⟩ 1).text = "//" ∧
      find ⟨"/"⟩ entries = some ⟨⟨"/"⟩, "ext4", "/dev/sda3"⟩ ∧ isMounted ⟨"/"⟩ entries = true ∧
      find (Path.withSlashes ⟨"/"⟩ 1) entries = none ∧
      isMounted (Path.withSlashes ⟨"/"⟩ 1) entries = false := by
  decide +kernel

end MountTable

end BlockVolume
