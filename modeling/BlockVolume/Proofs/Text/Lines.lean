import BlockVolume.Text

namespace BlockVolume

namespace Text.Utf8

theorem eq_of_ofNat_eq_newline {n : Nat} (h : Char.ofNat n = '\n') : n = 10 := by
  by_cases hn : n.isValidChar
  · have hvalue := congrArg Char.toNat h
    rw [Char.ofNat, dif_pos hn] at hvalue
    exact hvalue
  · rw [Char.ofNat, dif_neg hn] at h
    cases h

/-- The next octet of the character is no ASCII character, and what the character will be is none
either. -/
structure Begun.Long (p : Begun) : Prop where
  low : 0x80 ≤ p.low
  bits : 0 < p.bits ∨ 0 < p.owed ∧ 0x80 < p.low

theorem long_of_first {b : Nat} {p : Begun} (h : first b = .inr p) : p.Long := by
  revert h
  fun_cases first b
  all_goals
    intro h
    simp only [Sum.inr.injEq, reduceCtorEq] at h
  all_goals
    subst h
    constructor <;> dsimp only <;> omega

theorem eq_of_first_eq_newline {b : Nat} (h : first b = .inl (some '\n')) : b = 10 := by
  revert h
  fun_cases first b
  case case1 =>
    intro h
    exact eq_of_ofNat_eq_newline (Option.some.inj (Sum.inl.inj h))
  all_goals
    intro h
    simp only [Sum.inl.injEq, reduceCtorEq] at h

theorem Begun.Long.of_next {p q : Begun} {b : Nat} (hp : p.Long) (hb : p.low ≤ b)
    (h : p.next b = .inr q) : q.Long := by
  have hlow := hp.low
  have hbits := hp.bits
  unfold Begun.next at h
  split at h
  · simp only [reduceCtorEq] at h
  · simp only [Sum.inr.injEq] at h
    subst h
    refine ⟨Nat.le_refl _, .inl ?_⟩
    dsimp only
    omega

theorem Begun.Long.next_ne_newline {p : Begun} (hp : p.Long) (b : Nat) :
    p.next b ≠ .inl '\n' := by
  intro h
  have hbits := hp.bits
  unfold Begun.next at h
  split at h
  · have hnewline := eq_of_ofNat_eq_newline (Sum.inl.inj h)
    omega
  · simp only [reduceCtorEq] at h

/-- A line feed ends whatever character is begun, and reading starts anew behind it. -/
theorem pieces_append_newline (begun : Option Begun) (hbegun : ∀ p ∈ begun, p.Long)
    (as bs : List UInt8) :
    pieces begun (as ++ 10 :: bs) = pieces begun as ++ some '\n' :: pieces none bs := by
  induction as generalizing begun with
  | nil =>
      cases begun with
      | none => rfl
      | some p =>
          have := (hbegun p rfl).low
          have hlow : ¬(p.low ≤ 10 ∧ 10 ≤ p.high) := by omega
          simp [pieces, hlow, first]
  | cons a as ih =>
      cases begun with
      | none =>
          simp only [List.cons_append, pieces]
          cases hf : first a.toNat with
          | inl c => simp [ih none nofun]
          | inr p => simp [ih (some p) (by simpa using long_of_first hf)]
      | some p =>
          have hp := hbegun p rfl
          simp only [List.cons_append, pieces]
          split
          · next hr =>
              cases hn : p.next a.toNat with
              | inl c => simp [ih none nofun]
              | inr q => simp [ih (some q) (by simpa using hp.of_next hr.1 hn)]
          · cases hf : first a.toNat with
            | inl c => simp [ih none nofun]
            | inr q => simp [ih (some q) (by simpa using long_of_first hf)]

theorem mem_of_newline_mem_pieces (begun : Option Begun) (hbegun : ∀ p ∈ begun, p.Long)
    {bs : List UInt8} (h : some '\n' ∈ pieces begun bs) : 10 ∈ bs := by
  -- a step reads one octet, and the pieces that it completes are a line feed only for that octet
  have hfirst (b : UInt8) {rest : List UInt8} (ih : ∀ begun : Option Begun,
      (∀ p ∈ begun, p.Long) → some '\n' ∈ pieces begun rest → 10 ∈ rest)
      (h : some '\n' ∈ pieces none (b :: rest)) : 10 ∈ b :: rest := by
    rw [pieces] at h
    cases hf : first b.toNat with
    | inl c =>
        rw [hf] at h
        rcases List.mem_cons.1 h with rfl | h
        · have hb : b = 10 := UInt8.toNat_inj.1 (eq_of_first_eq_newline hf)
          exact hb ▸ List.mem_cons_self
        · exact List.mem_cons_of_mem _ (ih none nofun h)
    | inr q =>
        rw [hf] at h
        exact List.mem_cons_of_mem _ (ih (some q) (by simpa using long_of_first hf) h)
  induction bs generalizing begun with
  | nil => cases begun <;> simp [pieces] at h
  | cons b bs ih =>
      cases begun with
      | none => exact hfirst b ih h
      | some p =>
          have hp := hbegun p rfl
          simp only [pieces] at h
          split at h
          · next hr =>
              cases hn : p.next b.toNat with
              | inl c =>
                  rw [hn] at h
                  rcases List.mem_cons.1 h with hc | h
                  · rw [← Option.some.inj hc] at hn
                    exact absurd hn (hp.next_ne_newline _)
                  · exact List.mem_cons_of_mem _ (ih none nofun h)
              | inr q =>
                  rw [hn] at h
                  exact List.mem_cons_of_mem _ (ih (some q) (by simpa using hp.of_next hr.1 hn) h)
          · rcases List.mem_cons.1 h with hc | h
            · cases hc
            · exact hfirst b ih h

theorem toList_decodeLossy (bs : List UInt8) :
    (decodeLossy bs).toList = (pieces none bs).map (·.getD '\uFFFD') :=
  String.toList_ofList

theorem decodeLossy_append_newline (as bs : List UInt8) :
    (decodeLossy (as ++ 10 :: bs)).toList =
      (decodeLossy as).toList ++ '\n' :: (decodeLossy bs).toList := by
  simp [toList_decodeLossy, pieces_append_newline none nofun]

theorem newline_not_mem_decodeLossy {bs : List UInt8} (h : 10 ∉ bs) :
    '\n' ∉ (decodeLossy bs).toList := by
  rw [toList_decodeLossy, List.mem_map]
  rintro ⟨piece, hpiece, hc⟩
  cases piece with
  | none => simp at hc
  | some c => exact h (mem_of_newline_mem_pieces none nofun (hc ▸ hpiece))

theorem splitOn_decodeLossy (bs : List UInt8) :
    (decodeLossy bs).toList.splitOn '\n' =
      (bs.splitOn 10).map fun line => (decodeLossy line).toList := by
  induction hn : bs.length using Nat.strongRecOn generalizing bs with
  | ind n ih =>
      by_cases h : 10 ∈ bs
      · obtain ⟨as, cs, rfl, has⟩ := List.eq_append_cons_of_mem h
        have hlt : cs.length < n := by
          simp only [← hn, List.length_append, List.length_cons]
          omega
        rw [decodeLossy_append_newline, List.splitOn_append_cons_self_of_not_mem has,
          List.splitOn_append_cons_self_of_not_mem (newline_not_mem_decodeLossy has),
          List.map_cons, ih _ hlt cs rfl]
      · rw [List.splitOn_eq_singleton h,
          List.splitOn_eq_singleton (newline_not_mem_decodeLossy h)]
        rfl

end Text.Utf8

namespace Text

/-- What is found in the lines of a text is found between its line feeds, if a carriage return at
the end of a line and an empty line do not matter. -/
theorem filterMap_lines {β : Type} {g : List Char → Option β} (hempty : g [] = none)
    (hreturn : ∀ cs, g (cs ++ ['\r']) = g cs) (cs : List Char) :
    (lines cs).filterMap g = (cs.splitOn '\n').filterMap g := by
  have hclose (acc : List Char) : g (closeLine acc) = g acc.reverse := by
    unfold closeLine
    split
    · rw [List.reverse_cons, hreturn]
    · rfl
  suffices h : ∀ acc, '\n' ∉ acc →
      (linesFrom acc cs).filterMap g = ((acc.reverse ++ cs).splitOn '\n').filterMap g from
    h [] (by simp)
  induction cs with
  | nil =>
      intro acc hacc
      rw [List.append_nil, List.splitOn_eq_singleton (by simpa using hacc), linesFrom]
      cases acc with
      | nil => simp [hempty]
      | cons c acc => rfl
  | cons c cs ih =>
      intro acc hacc
      rw [linesFrom]
      split
      · next hc =>
          rw [hc, List.splitOn_append_cons_self_of_not_mem (by simpa using hacc),
            List.filterMap_cons, List.filterMap_cons, hclose, ih [] (by simp)]
          rfl
      · next hc =>
          rw [ih (c :: acc) (by simp [hacc, Ne.symm hc]), List.reverse_cons, List.append_assoc]
          rfl

theorem dropWhile_surrounded {blanks core : List Char} (hblanks : ∀ c ∈ blanks, isBlank c = true)
    (hfirst : ∀ c ∈ core.head?, isBlank c = false) : (blanks ++ core).dropWhile isBlank = core := by
  rw [List.dropWhile_append_of_pos hblanks]
  cases core with
  | nil => rfl
  | cons c core => exact List.dropWhile_cons_of_neg (by simp [hfirst c rfl])

theorem trimChars_surrounded {before core after : List Char}
    (hbefore : ∀ c ∈ before, isBlank c = true) (hafter : ∀ c ∈ after, isBlank c = true)
    (hfirst : ∀ c ∈ core.head?, isBlank c = false)
    (hlast : ∀ c ∈ core.getLast?, isBlank c = false) :
    trimChars (before ++ core ++ after) = core := by
  cases core with
  | nil =>
      have hall : ∀ c ∈ before ++ after, isBlank c = true := fun c hc =>
        (List.mem_append.1 hc).elim (hbefore c) (hafter c)
      have hnone : (before ++ after ++ []).dropWhile isBlank = [] :=
        dropWhile_surrounded hall nofun
      rw [List.append_nil] at hnone
      simp [trimChars, hnone]
  | cons c core =>
      have hlast : ∀ d ∈ (c :: core).reverse.head?, isBlank d = false := by
        rwa [List.head?_reverse]
      have hfront : (before ++ (c :: core ++ after)).dropWhile isBlank = c :: core ++ after :=
        dropWhile_surrounded hbefore hfirst
      rw [trimChars, List.append_assoc, hfront, List.reverse_append,
        dropWhile_surrounded (by simpa using hafter) hlast, List.reverse_reverse]

theorem not_blank_of_head?_dropWhile {cs : List Char} :
    ∀ c ∈ (cs.dropWhile isBlank).head?, isBlank c = false := by
  intro c hc
  have h := List.head?_dropWhile_not isBlank cs
  rw [hc] at h
  simpa using h

theorem trimChars_spec (cs : List Char) :
    ∃ before after, cs = before ++ trimChars cs ++ after ∧ (∀ c ∈ before, isBlank c = true) ∧
      (∀ c ∈ after, isBlank c = true) ∧ (∀ c ∈ (trimChars cs).head?, isBlank c = false) ∧
      ∀ c ∈ (trimChars cs).getLast?, isBlank c = false := by
  have hfront : cs.takeWhile isBlank ++ cs.dropWhile isBlank = cs := List.takeWhile_append_dropWhile
  generalize hrest : cs.dropWhile isBlank = rest at hfront
  have hback : trimChars cs ++ (rest.reverse.takeWhile isBlank).reverse = rest := by
    rw [trimChars, hrest, ← List.reverse_append, List.takeWhile_append_dropWhile,
      List.reverse_reverse]
  refine ⟨cs.takeWhile isBlank, (rest.reverse.takeWhile isBlank).reverse, ?_, ?_, ?_, ?_, ?_⟩
  · rw [List.append_assoc, hback, hfront]
  · exact fun c hc => List.all_eq_true.1 List.all_takeWhile c hc
  · exact fun c hc => List.all_eq_true.1 List.all_takeWhile c (List.mem_reverse.1 hc)
  · intro c hc
    have hmem : c ∈ rest.head? := by rw [← hback, List.head?_append, hc]; rfl
    exact not_blank_of_head?_dropWhile c (hrest ▸ hmem)
  · rw [trimChars, List.getLast?_reverse]
    exact not_blank_of_head?_dropWhile

theorem trimChars_append_blank (cs : List Char) {b : Char} (hb : isBlank b = true) :
    trimChars (cs ++ [b]) = trimChars cs := by
  obtain ⟨before, after, hcs, hbefore, hafter, hfirst, hlast⟩ := trimChars_spec cs
  have hafter : ∀ c ∈ after ++ [b], isBlank c = true := by
    simpa [or_imp, forall_and] using ⟨hafter, hb⟩
  conv => lhs; rw [hcs, List.append_assoc]
  exact trimChars_surrounded hbefore hafter hfirst hlast

theorem dropLead?_eq_some {lead cs rest : List Char} :
    dropLead? lead cs = some rest ↔ cs = lead ++ rest := by
  unfold dropLead?
  split
  · next h =>
      obtain ⟨t, rfl⟩ := List.isPrefixOf_iff_prefix.1 h
      simp
  · next h =>
      refine ⟨nofun, ?_⟩
      rintro rfl
      exact absurd (List.isPrefixOf_iff_prefix.2 (List.prefix_append ..)) h

end Text

end BlockVolume
