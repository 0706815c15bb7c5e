import BlockVolume.Text

namespace BlockVolume.Text

variable {sep c : Char} {cs piece : List Char}

theorem splitAt_ne_nil (sep : Char) (cs : List Char) : splitAt sep cs ≠ [] := by
  cases cs with
  | nil => simp [splitAt]
  | cons c cs =>
      unfold splitAt
      split
      · simp
      · split <;> simp

theorem splitAt_cons_of_ne {d : Char} (hd : d ≠ sep) (cs : List Char) :
    ∃ w ws, splitAt sep cs = w :: ws ∧ splitAt sep (d :: cs) = (d :: w) :: ws := by
  obtain ⟨w, ws, hs⟩ := List.exists_cons_of_ne_nil (splitAt_ne_nil sep cs)
  exact ⟨w, ws, hs, by rw [splitAt, if_neg hd, hs]⟩

theorem splitAt_append (sep : Char) (cs ds : List Char) :
    splitAt sep (cs ++ sep :: ds) = splitAt sep cs ++ splitAt sep ds := by
  induction cs with
  | nil => simp [splitAt]
  | cons c cs ih =>
      by_cases hc : c = sep
      · simp [splitAt, hc, ih]
      · obtain ⟨w, ws, hs, hcons⟩ := splitAt_cons_of_ne hc cs
        rw [List.cons_append, splitAt, if_neg hc, ih, hs, hcons]
        rfl

theorem splitAt_of_not_mem (h : sep ∉ cs) : splitAt sep cs = [cs] := by
  induction cs with
  | nil => rfl
  | cons d cs ih =>
      have hd : d ≠ sep := fun hd => h (hd ▸ List.mem_cons_self)
      rw [splitAt, if_neg hd, ih fun hmem => h (.tail d hmem)]

theorem splitAt_intercalate {ws : List (List Char)} (hne : ws ≠ []) (h : ∀ w ∈ ws, sep ∉ w) :
    splitAt sep ([sep].intercalate ws) = ws := by
  induction ws with
  | nil => exact absurd rfl hne
  | cons w ws ih =>
      have hw := splitAt_of_not_mem (h w List.mem_cons_self)
      cases ws with
      | nil => simpa using hw
      | cons v ws =>
          have hrest := ih (List.cons_ne_nil v ws) fun u hu => h u (.tail w hu)
          rw [List.intercalate_cons_cons, List.append_assoc, List.singleton_append, splitAt_append,
            hw, hrest]
          rfl

theorem mem_of_mem_splitAt (h : piece ∈ splitAt sep cs) (hc : c ∈ piece) : c ∈ cs := by
  induction cs generalizing piece with
  | nil =>
      obtain rfl := List.mem_singleton.1 h
      exact hc
  | cons d cs ih =>
      by_cases hd : d = sep
      · rw [splitAt, if_pos hd] at h
        rcases List.mem_cons.1 h with rfl | h
        · cases hc
        · exact .tail d (ih h hc)
      · obtain ⟨w, ws, hs, hcons⟩ := splitAt_cons_of_ne hd cs
        rw [hcons] at h
        rw [hs] at ih
        rcases List.mem_cons.1 h with rfl | h
        · rcases List.mem_cons.1 hc with rfl | hc
          · exact List.mem_cons_self
          · exact .tail d (ih List.mem_cons_self hc)
        · exact .tail d (ih (.tail w h) hc)

theorem exists_mem_splitAt (hc : c ∈ cs) (hsep : c ≠ sep) : ∃ piece ∈ splitAt sep cs, c ∈ piece := by
  induction cs with
  | nil => cases hc
  | cons d cs ih =>
      by_cases hd : d = sep
      · rw [splitAt, if_pos hd]
        rcases List.mem_cons.1 hc with rfl | hc
        · exact absurd hd hsep
        · obtain ⟨piece, hpiece, hmem⟩ := ih hc
          exact ⟨piece, .tail _ hpiece, hmem⟩
      · obtain ⟨w, ws, hs, hcons⟩ := splitAt_cons_of_ne hd cs
        rw [hs] at ih
        rw [hcons]
        rcases List.mem_cons.1 hc with rfl | hc
        · exact ⟨c :: w, List.mem_cons_self, List.mem_cons_self⟩
        · obtain ⟨piece, hpiece, hmem⟩ := ih hc
          rcases List.mem_cons.1 hpiece with rfl | hpiece
          · exact ⟨d :: piece, List.mem_cons_self, .tail d hmem⟩
          · exact ⟨piece, .tail _ hpiece, hmem⟩

end BlockVolume.Text
