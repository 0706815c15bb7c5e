import BlockVolume.Text

namespace BlockVolume.Text

def IsWord (w : List Char) : Prop := w ≠ [] ∧ ∀ c ∈ w, isBlank c = false

instance (w : List Char) : Decidable (IsWord w) :=
  -- the characters of the word are looked at, not all that there are
  letI := List.decidableBAll (fun c => isBlank c = false) w
  inferInstanceAs (Decidable (w ≠ [] ∧ ∀ c ∈ w, isBlank c = false))

def spaced : List (List Char) → List Char
  | [] => []
  | [w] => w
  | w :: v :: ws => w ++ ' ' :: spaced (v :: ws)

variable {w : List Char} {ws : List (List Char)} {b : Char} {cs : List Char}

theorem IsWord.not_mem (hw : IsWord w) (hb : isBlank b = true) : b ∉ w := fun h =>
  Bool.false_ne_true ((hw.2 b h).symm.trans hb)

theorem spaced_append (w : List Char) (ws : List (List Char)) (cs : List Char) :
    ∃ ds, spaced (w :: ws) ++ ' ' :: cs = w ++ ' ' :: ds := by
  cases ws with
  | nil => exact ⟨cs, rfl⟩
  | cons v ws => exact ⟨spaced (v :: ws) ++ ' ' :: cs, by simp [spaced]⟩

theorem words_blank_cons (hb : isBlank b = true) (cs : List Char) : words (b :: cs) = words cs := by
  cases cs <;> simp [words, hb]

/-- A character before a word that has begun belongs to that word. -/
theorem words_cons_cons {c d : Char} (hc : isBlank c = false) (hd : isBlank d = false)
    (cs : List Char) : words (c :: d :: cs) = consFirst c (words (d :: cs)) := by
  rw [words.eq_def]
  simp [hc, hd]

theorem words_append_blank (hw : IsWord w) (hb : isBlank b = true) (cs : List Char) :
    words (w ++ b :: cs) = w :: words cs := by
  induction w with
  | nil => exact absurd rfl hw.1
  | cons c w ih =>
      have hc : isBlank c = false := hw.2 c List.mem_cons_self
      cases w with
      | nil => simp [words, hc, hb]
      | cons d w =>
          have htail : IsWord (d :: w) := ⟨List.cons_ne_nil d w, fun x hx => hw.2 x (.tail c hx)⟩
          have hd : isBlank d = false := hw.2 d (.tail c List.mem_cons_self)
          have hrest := ih htail
          rw [List.cons_append] at hrest
          rw [List.cons_append, List.cons_append, words_cons_cons hc hd, hrest]
          rfl

theorem words_concat_blank (hb : isBlank b = true) (cs : List Char) :
    words (cs ++ [b]) = words cs := by
  fun_induction words cs with
  | case1 => rw [List.nil_append, words_blank_cons hb, words]
  | case2 c cs hc ih => rw [List.cons_append, words_blank_cons hc, ih]
  | case3 c hc => simp [words, hc, hb]
  | case4 c hc d cs hd ih =>
      rw [List.cons_append] at ih
      rw [List.cons_append, List.cons_append, words.eq_def]
      simp [hc, hd, ih]
  | case5 c hc d cs hd ih =>
      rw [List.cons_append] at ih
      rw [List.cons_append, List.cons_append, words_cons_cons (by simpa using hc) (by simpa using hd),
        ih]

theorem words_of_isWord (hw : IsWord w) : words w = [w] := by
  rw [← words_concat_blank (b := ' ') rfl w, words_append_blank hw rfl, words]

theorem words_spaced (hws : ∀ w ∈ ws, IsWord w) : words (spaced ws) = ws := by
  induction ws with
  | nil => rfl
  | cons w ws ih =>
      have hw : IsWord w := hws w List.mem_cons_self
      cases ws with
      | nil => exact words_of_isWord hw
      | cons v ws =>
          have hrest : ∀ u ∈ v :: ws, IsWord u := fun u hu => hws u (.tail w hu)
          rw [spaced, words_append_blank hw rfl, ih hrest]

theorem isWord_of_mem_words (h : w ∈ words cs) : IsWord w := by
  fun_induction words cs generalizing w with
  | case1 => cases h
  | case2 c cs hc ih => exact ih h
  | case3 c hc =>
      obtain rfl := List.mem_singleton.1 h
      exact ⟨List.cons_ne_nil _ _, by simpa using hc⟩
  | case4 c hc d cs hd ih =>
      rcases List.mem_cons.1 h with rfl | h
      · exact ⟨List.cons_ne_nil _ _, by simpa using hc⟩
      · exact ih h
  | case5 c hc d cs hd ih =>
      have hone : IsWord [c] := ⟨List.cons_ne_nil _ _, by simpa using hc⟩
      cases hv : words (d :: cs) with
      | nil =>
          rw [hv, consFirst] at h
          obtain rfl := List.mem_singleton.1 h
          exact hone
      | cons v vs =>
          rw [hv, consFirst] at h
          rcases List.mem_cons.1 h with rfl | h
          · have hv : IsWord v := ih (hv ▸ List.mem_cons_self)
            exact ⟨List.cons_ne_nil _ _, List.forall_mem_cons.2 ⟨by simpa using hc, hv.2⟩⟩
          · exact ih (hv ▸ .tail v h)

theorem splitFirst_concat {sep : List Char} (hsep : sep ≠ []) (hb : sep.getLast? ≠ some b)
    (cs : List Char) :
    splitFirst sep (cs ++ [b]) = (splitFirst sep cs).map fun (x, y) => (x, y ++ [b]) := by
  have hprefix (ds : List Char) : sep.isPrefixOf (ds ++ [b]) = sep.isPrefixOf ds := by
    rw [Bool.eq_iff_iff, List.isPrefixOf_iff_prefix, List.isPrefixOf_iff_prefix,
      List.prefix_concat_iff]
    refine or_iff_right ?_
    rintro rfl
    exact hb (by simp)
  have hempty : sep.isEmpty = false := by simpa using hsep
  induction cs with
  | nil =>
      have h := hprefix []
      rw [List.nil_append, show sep.isPrefixOf [] = sep.isEmpty by cases sep <;> rfl, hempty] at h
      simp [splitFirst, h, hempty]
  | cons c cs ih =>
      have h := hprefix (c :: cs)
      rw [List.cons_append] at h
      rw [List.cons_append, splitFirst, splitFirst, h, ih]
      split
      · next hp =>
          have hle : sep.length ≤ (c :: cs).length := (List.isPrefixOf_iff_prefix.1 hp).length_le
          rw [← List.cons_append, List.drop_append_of_le_length hle]
          rfl
      · cases splitFirst sep cs <;> rfl

theorem splitFirst_append_of_not_mem {first : Char} {sep : List Char} (hw : first ∉ w)
    (cs : List Char) :
    splitFirst (first :: sep) (w ++ cs) =
      (splitFirst (first :: sep) cs).map fun (x, y) => (w ++ x, y) := by
  induction w with
  | nil =>
      rw [List.nil_append]
      cases splitFirst (first :: sep) cs <;> rfl
  | cons c w ih =>
      have hc : first ≠ c := fun h => hw (h ▸ List.mem_cons_self)
      have hrest : first ∉ w := fun h => hw (.tail c h)
      rw [List.cons_append, splitFirst, ih hrest]
      cases splitFirst (first :: sep) cs <;> simp [hc]

theorem splitFirst_before_word (hw : IsWord w) (hhyphen : w ≠ ['-']) (cs : List Char) :
    splitFirst " - ".toList (' ' :: (w ++ ' ' :: cs)) =
      (splitFirst " - ".toList (w ++ ' ' :: cs)).map fun (x, y) => (' ' :: x, y) := by
  have hno : " - ".toList.isPrefixOf (' ' :: (w ++ ' ' :: cs)) = false := by
    match w, hw, hhyphen with
    | [], hw, _ => exact absurd rfl hw.1
    | [c], _, hhyphen =>
        have hc : '-' ≠ c := fun h => hhyphen (h ▸ rfl)
        simp [List.isPrefixOf, hc]
    | c :: d :: w, hw, _ =>
        have hd : ' ' ≠ d := by
          rintro rfl
          exact hw.not_mem rfl (.tail c List.mem_cons_self)
        simp [List.isPrefixOf, hd]
  rw [splitFirst, hno]
  rfl

theorem splitFirst_spaced (hne : ws ≠ []) (hws : ∀ w ∈ ws, IsWord w ∧ w ≠ ['-'])
    (cs : List Char) :
    splitFirst " - ".toList (spaced ws ++ " - ".toList ++ cs) = some (spaced ws, cs) := by
  have hskip {w : List Char} (hw : IsWord w) (ds : List Char) :
      splitFirst " - ".toList (w ++ ds) =
        (splitFirst " - ".toList ds).map fun (x, y) => (w ++ x, y) :=
    splitFirst_append_of_not_mem (hw.not_mem rfl) ds
  induction ws with
  | nil => exact absurd rfl hne
  | cons w ws ih =>
      have hw : IsWord w := (hws w List.mem_cons_self).1
      cases ws with
      | nil =>
          rw [spaced, List.append_assoc, hskip hw]
          simp [splitFirst, List.isPrefixOf]
      | cons v ws =>
          have hrest : ∀ u ∈ v :: ws, IsWord u ∧ u ≠ ['-'] := fun u hu => hws u (.tail w hu)
          have hv := hrest v List.mem_cons_self
          have hcut := ih (List.cons_ne_nil v ws) hrest
          obtain ⟨ds, hds⟩ := spaced_append v ws ('-' :: ' ' :: cs)
          have htext : spaced (v :: ws) ++ " - ".toList ++ cs = v ++ ' ' :: ds := by
            rw [← hds]
            simp
          rw [spaced, List.append_assoc, List.append_assoc, hskip hw, List.cons_append,
            ← List.append_assoc, htext, splitFirst_before_word hv.1 hv.2, ← htext, hcut]
          rfl

end BlockVolume.Text
