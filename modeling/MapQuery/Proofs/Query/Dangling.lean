import MapQuery.Proofs.Query.Stream

/-!
# A backslash with nothing behind it

Whether a backslash escapes the next character depends on the backslashes before it alone: wherever
words, quoted texts and blanks begin, no terminal cuts an escape in two. So the one thing that can
be left of a query is a last backslash, and it is left when the backslashes at the end are odd in
number. What stands in front of it is read as if it were not there.

* `dangles` -- a text ends in a backslash that escapes nothing;
* `dangles_iff` -- the backslashes at its end are odd in number;
* `dangles_of_take` -- no terminal takes one without what it escapes;
* `lexemes_rest` -- what is left of a text;
* `lexemes_backslash` -- the lexemes do not change when a backslash is left behind them;
* `fault_lexed` -- the fault of a query;
* `exists_reads_iff`, `reads_of_dangles` -- what reading gives, with and without such a backslash;
* `reads_query` -- the same by the number of backslashes at the end.
-/

namespace MapQuery.Query

open MapQuery.Text

/-! ## 1. Escapes from the left and from the right -/

/-- Does a character escape the next one, where it may be escaped itself? -/
def escapes (escaped : Bool) (c : Char) : Bool := c == '\\' && !escaped

/-- **A text ends in a backslash that escapes nothing.** -/
def dangles (s : List Char) : Bool := s.foldl escapes false

/-- How many backslashes stand at the end of a text. -/
def backslashesAtEnd (s : List Char) : Nat := (s.reverse.takeWhile (· == '\\')).length

theorem dangles_concat (s : List Char) (c : Char) :
    dangles (s ++ [c]) = (c == '\\' && !dangles s) := by
  unfold dangles
  rw [List.foldl_append]
  rfl

theorem dangles_append {w : List Char} (h : dangles w = false) (r : List Char) :
    dangles (w ++ r) = dangles r := by
  unfold dangles at h ⊢
  rw [List.foldl_append, h]

theorem dangles_cons {c : Char} (h : c ≠ '\\') (r : List Char) : dangles (c :: r) = dangles r :=
  dangles_append (w := [c]) (by simp [dangles, escapes, h]) r

theorem dangles_escape (c : Char) (r : List Char) : dangles ('\\' :: c :: r) = dangles r :=
  dangles_append (w := ['\\', c]) (by simp [dangles, escapes]) r

theorem backslashesAtEnd_concat (s : List Char) (c : Char) :
    backslashesAtEnd (s ++ [c]) = if c = '\\' then backslashesAtEnd s + 1 else 0 := by
  unfold backslashesAtEnd
  rw [List.reverse_append, List.reverse_singleton, List.singleton_append]
  by_cases hc : c = '\\'
  · rw [if_pos hc, List.takeWhile_cons_of_pos (by simpa using hc), List.length_cons]
  · rw [if_neg hc, List.takeWhile_cons_of_neg (by simpa using hc), List.length_nil]

/-- **A text ends in a backslash that escapes nothing when those at its end are odd in number.** -/
theorem dangles_iff (s : List Char) : dangles s = true ↔ backslashesAtEnd s % 2 = 1 := by
  -- from the left only the parity is known, so the induction takes the characters from the right
  have hreverse : ∀ u : List Char,
      dangles u.reverse = true ↔ backslashesAtEnd u.reverse % 2 = 1 := by
    intro u
    induction u with
    | nil => decide
    | cons c u ih =>
      rw [List.reverse_cons, dangles_concat, backslashesAtEnd_concat]
      by_cases hc : c = '\\'
      · rw [if_pos hc, hc, BEq.rfl, Bool.true_and, Bool.not_eq_true', ← Bool.not_eq_true, ih]
        omega
      · simp [hc]
  have h := hreverse s.reverse
  rwa [List.reverse_reverse] at h

theorem exists_of_dangles {s : List Char} (h : dangles s = true) :
    ∃ u, s = u ++ ['\\'] ∧ dangles u = false := by
  rcases List.eq_nil_or_concat s with rfl | ⟨u, c, rfl⟩
  · cases h
  · rw [List.concat_eq_append, dangles_concat] at h
    rw [List.concat_eq_append]
    obtain ⟨rfl, hu⟩ : c = '\\' ∧ dangles u = false := by simpa using h
    exact ⟨u, rfl, hu⟩

/-! ## 2. No terminal cuts an escape in two -/

theorem dangles_takeItems {plain : Char → Bool} (hplain : plain '\\' = false) (s : List Char) :
    dangles (takeItems plain s).1 = false := by
  fun_induction takeItems plain s with
  | case1 c r ih => rw [dangles_escape, ih]
  | case2 c r hesc hc ih =>
    rw [dangles_cons (ne_of_test hc hplain), ih]
  | case3 => rfl
  | case4 => rfl

theorem dangles_of_notMem {w : List Char} (h : '\\' ∉ w) : dangles w = false := by
  induction w with
  | nil => rfl
  | cons c w ih =>
    obtain ⟨hc, hw⟩ : '\\' ≠ c ∧ '\\' ∉ w := by simpa using h
    rw [dangles_cons (Ne.symm hc), ih hw]

theorem dangles_takeQuoted {s w r : List Char} (h : takeQuoted s = some (w, r)) :
    dangles w = false := by
  obtain ⟨u, -, rfl, -⟩ := takeQuoted_eq_some h
  have hclosing : dangles (takeClosing (takeItems isQuotedChar u).2).1 = false := by
    rcases takeClosing_fst (takeItems isQuotedChar u).2 with hc | hc
    · rw [hc]
      rfl
    · rw [hc]
      rfl
  rw [dangles_cons (by decide), dangles_append (dangles_takeItems (by decide) u), hclosing]

/-- **No terminal takes a backslash without what it escapes.** -/
theorem dangles_of_take {t : Terminal} {s w r : List Char} (h : t.take s = some (w, r)) :
    dangles w = false := by
  have hsign : ∀ {c : Char}, c ≠ '\\' → takeChar c s = some (w, r) → dangles w = false := by
    intro c hc h
    obtain ⟨rfl, -⟩ := takeChar_eq_some h
    exact dangles_cons hc []
  unfold Terminal.take at h
  split at h
  case h_7 =>
    obtain ⟨c, rfl, -, hc⟩ := takeNegation_eq_some h
    rcases hc with rfl | ⟨rfl, -⟩
    · decide
    · decide
  case h_8 => exact dangles_takeQuoted h
  case h_9 =>
    obtain ⟨hx, -⟩ := nonempty_eq_some h
    have hitems := dangles_takeItems (by decide : isWordChar '\\' = false) s
    rw [hx] at hitems
    exact hitems
  case h_10 =>
    obtain ⟨hx, -⟩ := nonempty_eq_some h
    cases hx
    refine dangles_of_notMem fun hmem => ?_
    have hblank := List.all_eq_true.mp List.all_takeWhile _ hmem
    exact absurd hblank (by decide)
  all_goals exact hsign (by decide) h

theorem dangles_of_firstMatch {t : Terminal} {s w r : List Char}
    (h : firstMatch s = some (t, w, r)) : dangles s = dangles r := by
  rw [← (firstMatch_append h).1, dangles_append (dangles_of_take (firstMatch_eq_some h))]

/-! ## 3. What is left of a text -/

/-- **What is left of a text is the backslash that escapes nothing**, if it ends in one. -/
theorem lexemes_rest (s : List Char) : (lexemes s).2 = if dangles s then ['\\'] else [] := by
  fun_induction lexemes s with
  | case1 s hs =>
    rcases (firstMatch_eq_none_iff s).mp hs with rfl | rfl
    · rfl
    · rfl
  | case2 s w r hs _ ih => rw [ih, dangles_of_firstMatch hs]
  | case3 s shape w r hs _ ih => rw [ih, dangles_of_firstMatch hs]

/-! ## 4. A backslash left behind a text -/

/-- What is taken, with a backslash behind what is left. -/
def withBackslash (x : List Char × List Char) : List Char × List Char := (x.1, x.2 ++ ['\\'])

theorem takeItems_backslash {plain : Char → Bool} (hplain : plain '\\' = false) {s : List Char}
    (hs : dangles s = false) :
    takeItems plain (s ++ ['\\']) = withBackslash (takeItems plain s) := by
  fun_induction takeItems plain s with
  | case1 c r ih =>
    rw [dangles_escape] at hs
    rw [List.cons_append, List.cons_append, takeItems, ih hs]
    rfl
  | case2 c r hesc hc ih =>
    have hne := ne_of_test hc hplain
    rw [dangles_cons hne] at hs
    rw [List.cons_append, takeItems_cons hne, if_pos hc, ih hs]
    rfl
  | case3 c r hesc hc =>
    have hne : c ≠ '\\' := by
      rintro rfl
      cases r with
      | nil => cases hs
      | cons d r => exact hesc d r rfl rfl
    rw [List.cons_append, takeItems_cons hne, if_neg hc]
    rfl
  | case4 =>
    rw [List.nil_append, takeItems, if_neg (by simp [hplain])]
    · rfl
    · intro _ _ _ h
      cases h

theorem takeClosing_backslash (s : List Char) :
    takeClosing (s ++ ['\\']) = withBackslash (takeClosing s) := by
  cases s with
  | nil => rfl
  | cons c r =>
    rw [List.cons_append, takeClosing, takeClosing]
    split
    · rfl
    · rfl

theorem nonempty_withBackslash (x : List Char × List Char) :
    nonempty (withBackslash x) = (nonempty x).map withBackslash := by
  cases h : x.1.isEmpty <;> simp [nonempty, withBackslash, h]

theorem takeChar_backslash {c : Char} (hc : c ≠ '\\') (s : List Char) :
    takeChar c (s ++ ['\\']) = (takeChar c s).map withBackslash := by
  cases s with
  | nil => exact if_neg (Ne.symm hc)
  | cons d r =>
    rw [List.cons_append, takeChar, takeChar]
    split
    · rfl
    · rfl

theorem takeNegation_backslash (s : List Char) :
    takeNegation (s ++ ['\\']) = (takeNegation s).map withBackslash := by
  cases s with
  | nil => rfl
  | cons d r =>
    have hdigit : startsWithDigit (r ++ ['\\']) = startsWithDigit r := by
      cases r with
      | nil => rfl
      | cons => rfl
    rw [List.cons_append, takeNegation, takeNegation, hdigit]
    split
    · rfl
    · rfl

theorem takeQuoted_backslash {s : List Char} (hs : dangles s = false) :
    takeQuoted (s ++ ['\\']) = (takeQuoted s).map withBackslash := by
  cases s with
  | nil => rfl
  | cons c r =>
    rw [List.cons_append, takeQuoted, takeQuoted]
    split
    · next hc =>
      subst hc
      rw [dangles_cons (by decide)] at hs
      simp only [takeItems_backslash (by decide : isQuotedChar '\\' = false) hs, withBackslash,
        takeClosing_backslash]
      rfl
    · rfl

theorem takeBlanks_backslash (s : List Char) :
    ((s ++ ['\\']).takeWhile isBlank, (s ++ ['\\']).dropWhile isBlank) =
      withBackslash (s.takeWhile isBlank, s.dropWhile isBlank) := by
  induction s with
  | nil => decide
  | cons c s ih =>
    obtain ⟨htake, hdrop⟩ := Prod.mk.inj ih
    rw [List.cons_append]
    by_cases hc : isBlank c = true
    · rw [List.takeWhile_cons_of_pos hc, List.takeWhile_cons_of_pos hc,
        List.dropWhile_cons_of_pos hc, List.dropWhile_cons_of_pos hc, htake, hdrop]
      rfl
    · rw [List.takeWhile_cons_of_neg hc, List.takeWhile_cons_of_neg hc,
        List.dropWhile_cons_of_neg hc, List.dropWhile_cons_of_neg hc]
      rfl

/-- **What a terminal takes does not change** when a backslash is left behind the text. -/
theorem Terminal.take_backslash {s : List Char} (hs : dangles s = false) (t : Terminal) :
    t.take (s ++ ['\\']) = (t.take s).map withBackslash := by
  unfold Terminal.take
  split
  case h_7 => exact takeNegation_backslash s
  case h_8 => exact takeQuoted_backslash hs
  case h_9 =>
    rw [takeItems_backslash (by decide) hs, nonempty_withBackslash]
  case h_10 =>
    rw [takeBlanks_backslash, nonempty_withBackslash]
  all_goals exact takeChar_backslash (by decide) s

theorem firstMatch_backslash {s : List Char} (hs : dangles s = false) :
    firstMatch (s ++ ['\\']) =
      (firstMatch s).map fun x => (x.1, withBackslash x.2) := by
  unfold firstMatch
  rw [List.map_findSome?]
  congr 1
  funext t
  rw [Function.comp_apply, Terminal.take_backslash hs, Option.map_map, Option.map_map]
  rfl

/-- **The lexemes of a text do not change** when a backslash is left behind it. -/
theorem lexemes_backslash {s : List Char} (hs : dangles s = false) :
    lexemes (s ++ ['\\']) = ((lexemes s).1, ['\\']) := by
  fun_induction lexemes s with
  | case1 s h =>
    rcases (firstMatch_eq_none_iff s).mp h with rfl | rfl
    · exact lexemes_of_none rfl
    · cases hs
  | case2 s w r h _ ih =>
    have hmatch := firstMatch_backslash hs
    rw [h] at hmatch
    rw [dangles_of_firstMatch h] at hs
    rw [lexemes_of_blanks hmatch, ih hs]
  | case3 s shape w r h _ ih =>
    have hmatch := firstMatch_backslash hs
    rw [h] at hmatch
    rw [dangles_of_firstMatch h] at hs
    rw [lexemes_of_lexeme hmatch, ih hs]

/-! ## 5. The fault of a query -/

/-- A query is cut into no more lexemes than it has characters. -/
theorem length_lexemes_le (s : List Char) : (lexemes s).1.length ≤ s.length := by
  fun_induction lexemes s with
  | case1 => exact Nat.zero_le _
  | case2 s w r h hlt ih => exact Nat.le_trans ih (Nat.le_of_lt hlt)
  | case3 s shape w r h hlt ih =>
    rw [List.length_cons]
    exact Nat.lt_of_le_of_lt ih hlt

theorem length_lexed_le (query : String) :
    (QueryText.ofString query).lexed.tokens.length ≤ query.length := by
  have htokens := congrArg List.length (QueryText.ofString query).token_lexemes
  rw [List.length_map, List.length_map] at htokens
  rw [← htokens, ← String.length_toList]
  exact length_lexemes_le query.toList

/-- **A query has no fault unless it ends in a backslash that escapes nothing.** -/
theorem fault_lexed (query : String) :
    (QueryText.ofString query).lexed.fault =
      if dangles query.toList then some (.strayChar '\\' query.length) else none := by
  show (QueryText.ofString query).faultAt (lexemes query.toList).2 = _
  rw [lexemes_rest]
  cases hd : dangles query.toList with
  | false => rfl
  | true =>
    have hpos : 0 < query.toList.length := by
      refine List.length_pos_iff.mpr fun hnil => ?_
      rw [hnil] at hd
      cases hd
    have hposition : query.toList.length - 1 + 1 = query.length := by
      rw [← String.length_toList]
      omega
    exact congrArg (fun p => some (Fault.strayChar '\\' p)) hposition

/-- **The tokens of a query that ends in such a backslash** are those of the text in front of it,
    which has no fault. -/
theorem lexed_dropLast {query : String} (h : dangles query.toList = true) :
    (QueryText.ofString (String.ofList query.toList.dropLast)).lexed =
      ⟨(QueryText.ofString query).lexed.tokens, none⟩ := by
  obtain ⟨u, hu, hdangles⟩ := exists_of_dangles h
  have hdrop : query.toList.dropLast = u := by rw [hu, List.dropLast_concat]
  have htokens : (lexemes query.toList).1 = (lexemes u).1 := by rw [hu, lexemes_backslash hdangles]
  have hrest : (lexemes u).2 = [] := by rw [lexemes_rest, hdangles]; rfl
  unfold QueryText.lexed QueryText.ofString
  simp only [String.toList_ofList, hdrop, htokens, hrest, QueryText.faultAt]

/-! ## 6. What reading gives -/

/-- **A query is read to its end** when it does not end in such a backslash. -/
theorem exists_reads_iff (query : String) :
    (∃ l, Reads query l none) ↔ dangles query.toList = false := by
  have hfault := fault_lexed query
  constructor
  · rintro ⟨l, hl⟩
    cases hd : dangles query.toList with
    | false => rfl
    | true =>
      rw [hl.fault_eq_none, hd] at hfault
      cases hfault
  · intro hd
    have hreads := reads_lexed query
    rw [hfault, hd] at hreads
    exact ⟨_, hreads⟩

/-- **A query that ends in such a backslash** is read as the text in front of it, up to the
    backslash, which is the fault. -/
theorem reads_of_dangles {query : String} (hd : dangles query.toList = true) :
    ∃ l, Reads (String.ofList query.toList.dropLast) l none ∧
      Reads query l (some (.strayChar '\\' query.length)) := by
  have hfront := reads_lexed (String.ofList query.toList.dropLast)
  have hreads := reads_lexed query
  rw [lexed_dropLast hd] at hfront
  rw [fault_lexed, hd] at hreads
  exact ⟨_, hfront, hreads⟩

/-- No other fault is ever read. -/
theorem eq_strayChar_of_mem_nexts {query : String} {n : Nat} {e : Fault}
    (h : .error e ∈ Cursor.nexts n { source := QueryText.ofString query }) :
    e = .strayChar '\\' query.length := by
  have hfault := fault_of_mem_nexts h
  rw [fault_lexed] at hfault
  split at hfault
  · exact (Option.some.inj hfault).symm
  · cases hfault

/-- **A query is read to its end unless it ends in an odd number of backslashes.** Then its tokens
    are those of the text in front of the last one, and that backslash is the fault. There is no
    other fault. The tokens are those of the lexemes that the terminals cut, and no more than there
    are characters. -/
theorem reads_query (query : String) :
    ((∃ l, Reads query l none) ↔ backslashesAtEnd query.toList % 2 = 0) ∧
      (backslashesAtEnd query.toList % 2 = 1 →
        ∃ l, Reads (String.ofList query.toList.dropLast) l none ∧
          Reads query l (some (.strayChar '\\' query.length))) ∧
      (∀ n e, .error e ∈ Cursor.nexts n { source := QueryText.ofString query } →
        e = .strayChar '\\' query.length ∧ e.isSyntax = true ∧
          e.message = "Unexpected character '\\\\' at position " ++ toString query.length) ∧
      ∃ l fault, (lexemes query.toList).1.map Lexeme.token = l.map .ok ∧
        l.length ≤ query.length ∧ Reads query l fault := by
  have hodd := dangles_iff query.toList
  refine ⟨(exists_reads_iff query).trans ?_, fun h => reads_of_dangles (hodd.mpr h),
    fun n e he => ?_, ?_⟩
  · rw [← Bool.not_eq_true, hodd]
    omega
  · obtain rfl := eq_strayChar_of_mem_nexts he
    exact ⟨rfl, rfl, rfl⟩
  · exact ⟨_, _, (QueryText.ofString query).token_lexemes, length_lexed_le query,
      reads_lexed query⟩

/-- Behind an escaped backslash there is one more. -/
theorem reads_query_three_backslashes :
    ∃ l, Reads "a\\\\" l none ∧ Reads "a\\\\\\" l (some (.strayChar '\\' 4)) :=
  (reads_query "a\\\\\\").2.1 rfl

end MapQuery.Query
