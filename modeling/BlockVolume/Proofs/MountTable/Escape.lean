import BlockVolume.MountTable

namespace BlockVolume.MountTable

def escapeChar : Char → List Char
  | ' ' => "\\040".toList
  | '\t' => "\\011".toList
  | '\n' => "\\012".toList
  | '\\' => "\\134".toList
  | c => [c]

def escape (text : List Char) : List Char := text.flatMap escapeChar

theorem escapeChar_cases (c : Char) :
    (escapeChar c, c) ∈ codes ∨ escapeChar c = [c] ∧ ∀ code ∈ codes, c ≠ code.2 := by
  unfold escapeChar
  split
  case h_5 hspace htab hfeed hbackslash =>
    refine .inr ⟨rfl, ?_⟩
    simp only [codes, List.forall_mem_cons]
    exact ⟨hspace, htab, hfeed, hbackslash, nofun⟩
  all_goals
    left
    decide

theorem replaceCode_cons {code : List Char} {d : Char} {s : List Char}
    (h : code.isPrefixOf (d :: s) = false) (c : Char) :
    replaceCode code c (d :: s) = d :: replaceCode code c s := by
  rw [replaceCode, replaceCode.go, h]
  rfl

theorem unescape_cons {d : Char} (h : d ≠ '\\') (s : List Char) :
    unescape (d :: s) = d :: unescape s := by
  have hno (digits s : List Char) : ('\\' :: digits).isPrefixOf (d :: s) = false := by
    simp [List.isPrefixOf, Ne.symm h]
  simp only [unescape, codes, List.foldl_cons, List.foldl_nil, String.reduceToList]
  rw [replaceCode_cons (hno _ _), replaceCode_cons (hno _ _), replaceCode_cons (hno _ _),
    replaceCode_cons (hno _ _)]

/-- What an escape yields is not read again: three of the characters are no backslash, and the
backslash is yielded last. -/
theorem unescape_code {code : List Char × Char} (h : code ∈ codes) (s : List Char) :
    unescape (code.1 ++ s) = code.2 :: unescape s := by
  simp only [codes, List.mem_cons, List.not_mem_nil, or_false] at h
  rcases h with rfl | rfl | rfl | rfl <;>
    simp [unescape, codes, replaceCode, replaceCode.go, List.isPrefixOf]

theorem unescape_escape (s : List Char) : unescape (escape s) = s := by
  induction s with
  | nil => rfl
  | cons c s ih =>
      rw [escape, List.flatMap_cons]
      rcases escapeChar_cases c with hcode | ⟨hself, hplain⟩
      · rw [unescape_code hcode]
        exact congrArg (c :: ·) ih
      · have hbackslash : c ≠ '\\' := hplain ("\\134".toList, '\\') (by simp [codes])
        rw [hself, List.singleton_append, unescape_cons hbackslash]
        exact congrArg (c :: ·) ih

theorem mem_escape {x : Char} {s : List Char} (h : x ∈ escape s) :
    (∃ code ∈ codes, x ∈ code.1) ∨ x ∈ s ∧ ∀ code ∈ codes, x ≠ code.2 := by
  obtain ⟨c, hc, hx⟩ := List.mem_flatMap.1 h
  rcases escapeChar_cases c with hcode | ⟨hself, hplain⟩
  · exact .inl ⟨_, hcode, hx⟩
  · rw [hself] at hx
    obtain rfl := List.mem_singleton.1 hx
    exact .inr ⟨hc, hplain⟩

theorem escape_ne_nil {s : List Char} (h : s ≠ []) : escape s ≠ [] := by
  intro he
  apply h
  rw [← unescape_escape s, he]
  rfl

theorem mem_replaceCode_go {code : List Char} {x c : Char} {skip : Nat} {s : List Char}
    (h : x ∈ replaceCode.go code c skip s) : x ∈ s ∨ x = c := by
  fun_induction replaceCode.go code c skip s with
  | case1 => cases h
  | case2 skip d s ih => exact (ih h).imp_left (.tail d)
  | case3 d s hp ih =>
      rcases List.mem_cons.1 h with rfl | h
      · exact .inr rfl
      · exact (ih h).imp_left (.tail d)
  | case4 d s hp ih =>
      rcases List.mem_cons.1 h with rfl | h
      · exact .inl List.mem_cons_self
      · exact (ih h).imp_left (.tail d)

theorem mem_unescape {x : Char} {s : List Char} (h : x ∈ unescape s) :
    x ∈ s ∨ x ∈ codes.map Prod.snd := by
  suffices hfold : ∀ (done : List (List Char × Char)) (t : List Char),
      x ∈ done.foldl (fun t code => replaceCode code.1 code.2 t) t →
        x ∈ t ∨ x ∈ done.map Prod.snd from hfold codes s h
  intro done
  induction done with
  | nil => exact fun t ht => .inl ht
  | cons code done ih =>
      intro t ht
      rcases ih _ ht with ht | hx
      · rcases mem_replaceCode_go ht with ht | rfl
        · exact .inl ht
        · exact .inr List.mem_cons_self
      · exact .inr (.tail _ hx)

theorem replaceCode_ne_nil (code : List Char) (c : Char) {s : List Char} (h : s ≠ []) :
    replaceCode code c s ≠ [] := by
  cases s with
  | nil => exact absurd rfl h
  | cons d s =>
      rw [replaceCode, replaceCode.go]
      split
      · exact List.cons_ne_nil _ _
      · exact List.cons_ne_nil _ _

theorem unescape_ne_nil {s : List Char} (h : s ≠ []) : unescape s ≠ [] :=
  List.foldlRecOn (motive := (· ≠ [])) codes _ h fun _ ht code _ =>
    replaceCode_ne_nil code.1 code.2 ht

/-- Undoing a code puts a character that is no digit, so it makes no digits of another code. -/
theorem isPrefixOf_of_replaceCode {code digits : List Char} {c : Char} (hc : c ∉ digits)
    {s : List Char} (h : digits.isPrefixOf (replaceCode code c s) = true) :
    digits.isPrefixOf s = true := by
  induction digits generalizing s with
  | nil => rfl
  | cons d digits ih =>
      cases s with
      | nil => exact h
      | cons e s =>
          cases hcode : code.isPrefixOf (e :: s) with
          | true =>
              rw [replaceCode, replaceCode.go, if_pos hcode, List.isPrefixOf_cons_cons,
                Bool.and_eq_true, beq_iff_eq] at h
              exact absurd (h.1 ▸ List.mem_cons_self) hc
          | false =>
              rw [replaceCode_cons hcode, List.isPrefixOf_cons_cons, Bool.and_eq_true] at h
              rw [List.isPrefixOf_cons_cons, Bool.and_eq_true]
              exact ⟨h.1, ih (fun hmem => hc (.tail d hmem)) h.2⟩

/-- A backslash that begins no code begins none either when codes behind it are undone. -/
theorem foldl_replaceCode_backslash {done : List (List Char × Char)}
    (hdone : ∀ code ∈ done, ∃ digits, code.1 = '\\' :: digits ∧ ∀ other ∈ done, other.2 ∉ digits)
    {s : List Char} (h : ∀ code ∈ done, code.1.isPrefixOf ('\\' :: s) = false) :
    done.foldl (fun t code => replaceCode code.1 code.2 t) ('\\' :: s) =
      '\\' :: done.foldl (fun t code => replaceCode code.1 code.2 t) s := by
  induction done generalizing s with
  | nil => rfl
  | cons first done ih =>
      rw [List.foldl_cons, List.foldl_cons, replaceCode_cons (h first List.mem_cons_self)]
      refine ih (fun code hcode => ?_) fun code hcode => ?_
      · obtain ⟨digits, hdigits, hothers⟩ := hdone code (.tail _ hcode)
        exact ⟨digits, hdigits, fun other hother => hothers other (.tail _ hother)⟩
      · obtain ⟨digits, hdigits, hothers⟩ := hdone code (.tail _ hcode)
        have hbefore := h code (.tail _ hcode)
        rw [hdigits, List.isPrefixOf_cons_cons, BEq.rfl, Bool.true_and, ← Bool.not_eq_true]
          at hbefore ⊢
        exact mt (isPrefixOf_of_replaceCode (hothers first List.mem_cons_self)) hbefore

theorem unescape_backslash {s : List Char} (h : ∀ code ∈ codes, ¬ code.1 <+: '\\' :: s) :
    unescape ('\\' :: s) = '\\' :: unescape s := by
  refine foldl_replaceCode_backslash (by simp [codes]) fun code hcode => ?_
  rw [← Bool.not_eq_true, List.isPrefixOf_iff_prefix]
  exact h code hcode

def readOnce : List Char → List Char
  | '\\' :: '0' :: '4' :: '0' :: rest => ' ' :: readOnce rest
  | '\\' :: '0' :: '1' :: '1' :: rest => '\t' :: readOnce rest
  | '\\' :: '0' :: '1' :: '2' :: rest => '\n' :: readOnce rest
  | '\\' :: '1' :: '3' :: '4' :: rest => '\\' :: readOnce rest
  | c :: rest => c :: readOnce rest
  | [] => []

theorem unescape_eq_readOnce (s : List Char) : unescape s = readOnce s := by
  have hcode (code : List Char × Char) (h : code ∈ codes) {rest : List Char}
      (ih : unescape rest = readOnce rest) :
      unescape (code.1 ++ rest) = code.2 :: readOnce rest := ih ▸ unescape_code h rest
  fun_induction readOnce s with
  | case1 rest ih => exact hcode ("\\040".toList, ' ') (by decide) ih
  | case2 rest ih => exact hcode ("\\011".toList, '\t') (by decide) ih
  | case3 rest ih => exact hcode ("\\012".toList, '\n') (by decide) ih
  | case4 rest ih => exact hcode ("\\134".toList, '\\') (by decide) ih
  | case5 c rest hspace htab hfeed hbackslash ih =>
      rw [← ih]
      by_cases hc : c = '\\'
      · subst hc
        have hno (digits : List Char) (h : ∀ t, rest = digits ++ t → False) :
            ¬ '\\' :: digits <+: '\\' :: rest := by
          rintro ⟨t, ht⟩
          exact h t (List.cons.inj ht).2.symm
        refine unescape_backslash ?_
        simp only [codes, List.forall_mem_cons, String.reduceToList]
        exact ⟨hno ['0', '4', '0'] fun t => hspace t rfl, hno ['0', '1', '1'] fun t => htab t rfl,
          hno ['0', '1', '2'] fun t => hfeed t rfl, hno ['1', '3', '4'] fun t => hbackslash t rfl,
          nofun⟩
      · exact unescape_cons hc rest
  | case6 => rfl

/-- Undoing one code after the other never reads twice what it has put. So it gives back every text
that was escaped, also one that looks like an escape itself. -/
theorem unescape_reads_once (text : List Char) :
    unescape text = readOnce text ∧ unescape (escape text) = text :=
  ⟨unescape_eq_readOnce text, unescape_escape text⟩

example : unescape "\\134040".toList = "\\040".toList := by decide

end BlockVolume.MountTable
