import MapQuery.Proofs.Text.FoldEdge
import Mathlib.Data.List.Chain

/-!
# Spellings of a text

A text can be typed in several ways that are the same in normal form: with marks composed or not,
and in any order of marks that do not hinder each other. Where case counts, these spellings are
compared alike. Where it does not, case is folded before the marks are brought into order, and the
iota below a Greek letter becomes a letter of its own: from then on the marks that were typed before
it and those that were typed behind it belong to different letters.

* `Equivalent`, `SoleSpelling`, `FoldsAlike` -- spellings of a text, and texts whose spelling makes
  no difference;
* `adscript` -- a text with the iotas below written as letters;
* `rearranged_foldText_iff` -- folding keeps two spellings together just if they are still spellings
  of one text with the iotas below as letters;
* `foldsAlike_iff_iotasApart` -- all spellings of a text fold alike just if its iotas below stand
  apart from other marks;
* `fold_spellings` -- when spellings are compared alike.
-/

namespace MapQuery.Text

/-! ## 1. Spellings -/

/-- Two texts are the same in normal form. -/
def Equivalent (s t : String) : Prop := normalize s = normalize t

/-- A text that cannot be spelled in another way. -/
def SoleSpelling (s : String) : Prop := ∀ t, Equivalent s t → t = s

/-- All spellings of a text are the same where case does not count. -/
def FoldsAlike (s : String) : Prop := ∀ t, Equivalent s t → fold s false = fold t false

section

variable {s t : String}

theorem fold_eq_of_equivalent (h : Equivalent s t) : fold s true = fold t true := h

theorem SoleSpelling.beq_eq {operand : String} (hs : SoleSpelling operand) (h : Equivalent s t) :
    (s == operand) = (t == operand) := by
  rw [Bool.eq_iff_iff, beq_iff_eq, beq_iff_eq]
  constructor
  · rintro rfl
    exact hs t h
  · rintro rfl
    exact hs s h.symm

/-- A needle is found in itself. -/
theorem contains_self (s : String) (caseSensitive : Bool) :
    contains s (fold s caseSensitive) caseSensitive = true :=
  (isInfixOf_iff _ _).mpr ⟨[], [], by rw [List.nil_append, List.append_nil]⟩

/-- Two texts that hold each other are the same. -/
theorem fold_eq_of_contains {caseSensitive : Bool}
    (h : contains t (fold s caseSensitive) caseSensitive = true)
    (h' : contains s (fold t caseSensitive) caseSensitive = true) :
    fold s caseSensitive = fold t caseSensitive := by
  obtain ⟨a, b, hst⟩ := (isInfixOf_iff _ _).mp h
  obtain ⟨a', b', hts⟩ := (isInfixOf_iff _ _).mp h'
  have hlength := congrArg List.length hst
  have hlength' := congrArg List.length hts
  simp only [List.length_append] at hlength hlength'
  have ha : a = [] := List.length_eq_zero_iff.mp (by omega)
  have hb : b = [] := List.length_eq_zero_iff.mp (by omega)
  rw [ha, hb, List.nil_append, List.append_nil] at hst
  exact String.toList_injective hst.symm

/-- **Texts are told apart by some needle if they are not the same.** -/
theorem fold_eq_iff_contains {caseSensitive : Bool} :
    fold s caseSensitive = fold t caseSensitive ↔
      ∀ needle, contains s needle caseSensitive = contains t needle caseSensitive := by
  constructor
  · intro h needle
    unfold contains
    rw [h]
  · intro h
    exact fold_eq_of_contains ((h _).symm.trans (contains_self s _))
      ((h _).trans (contains_self t _))

/-- **Spellings of a text differ in what is composed, and in the order of marks of different
    classes.** -/
theorem equivalent_iff : Equivalent s t ↔
    Normal.Rearranged (Normal.decomposed s.toList) (Normal.decomposed t.toList) := by
  rw [← Normal.composed_eq_iff]
  exact ⟨fun h => String.ofList_injective h, fun h => congrArg String.ofList h⟩

theorem soleSpelling_of_plain (hs : s.toList.all Normal.isPlain = true) : SoleSpelling s :=
  fun _ ht => String.toList_injective (Normal.eq_of_composed_eq hs (String.ofList_injective ht))

theorem foldsAlike_of_not_mem (hs : Case.iotaBelow ∉ Normal.decomposed s.toList) :
    FoldsAlike s := fun _ ht =>
  congrArg String.ofList (Case.composed_foldText_eq hs (String.ofList_injective ht))

end

/-! ## 2. Starters and marks of a folded text -/

namespace Case

open CodeTable MapQuery.Text.Normal

variable {c d : Char} {s t u : List Char}

/-- Is a character no mark? -/
def isStarter (c : Char) : Bool := markClass c == 0

/-- Marks have no case, so a row of them stays as it is, without an iota below. -/
theorem decomposed_foldText_marks (hu : ∀ m ∈ u, markClass m ≠ 0) (hatomic : Atomic u)
    (hiota : iotaBelow ∉ u) : decomposed (foldText u) = u := by
  have hfold : foldText u = u := foldText_eq_self fun m hm =>
    foldChar_mark (hu m hm) fun heq => hiota (heq ▸ hm)
  rw [hfold, hatomic.decomposed_eq]

/-- A starter folds to something that begins with a starter. -/
theorem exists_cons_foldChar (hc : markClass c = 0) (hatomic : decompose c = [c]) :
    ∃ d r, decomposed (foldChar c) = d :: r ∧ markClass d = 0 := by
  by_cases hchanged : c.toNat ∈ changed
  · obtain ⟨⟨d, r, hd, hstarter, -⟩, -⟩ := apart_of_changed hchanged
    exact ⟨d, r, hd, hstarter⟩
  · rw [foldChar_of_not_mem hchanged, decomposed_cons, hatomic]
    exact ⟨c, _, rfl, hc⟩

/-- **Folding makes no two texts one that have the same starters**, by induction on these: the marks
    before the first starter are found again before what it folds to. -/
theorem rearranged_of_foldText (hs : Atomic s) (ht : Atomic t) (hs' : iotaBelow ∉ s)
    (ht' : iotaBelow ∉ t) (hstarters : s.filter isStarter = t.filter isStarter)
    (h : Rearranged (decomposed (foldText s)) (decomposed (foldText t))) : Rearranged s t := by
  have hmarks : ∀ {l : List Char}, (∀ m ∈ l, ¬ isStarter m = true) → ∀ m ∈ l, markClass m ≠ 0 :=
    fun hl m hm heq => hl m hm (by simp [isStarter, heq])
  generalize hl : s.filter isStarter = l at hstarters
  induction l generalizing s t with
  | nil =>
    have hs'' := hmarks (List.filter_eq_nil_iff.mp hl)
    have ht'' := hmarks (List.filter_eq_nil_iff.mp hstarters.symm)
    rwa [decomposed_foldText_marks hs'' hs hs', decomposed_foldText_marks ht'' ht ht'] at h
  | cons c l ih =>
    obtain ⟨u, r, rfl, hu, hc, hr⟩ := List.filter_eq_cons_iff.mp hl
    obtain ⟨v, q, rfl, hv, -, hq⟩ := List.filter_eq_cons_iff.mp hstarters.symm
    have hstarter : markClass c = 0 := by simpa [isStarter] using hc
    obtain ⟨d, w, hd, hd'⟩ :=
      exists_cons_foldChar hstarter (hs c (List.mem_append_right u List.mem_cons_self))
    have hfold : ∀ {x y : List Char}, (∀ m ∈ x, ¬ isStarter m = true) → Atomic (x ++ c :: y) →
        iotaBelow ∉ x ++ c :: y → decomposed (foldText (x ++ c :: y)) =
          x ++ d :: (w ++ decomposed (foldText y)) := by
      intro x y hx hatomic hiota
      rw [foldText_append, foldText_cons, decomposed_append, decomposed_append, hd,
        decomposed_foldText_marks (hmarks hx) (fun m hm => hatomic m (List.mem_append_left _ hm))
          fun hm => hiota (List.mem_append_left _ hm)]
      rfl
    rw [hfold hu hs hs', hfold hv ht ht'] at h
    obtain ⟨hfront, -, hrest⟩ := Rearranged.cut (hmarks hu) (hmarks hv) hd' hd' h
    have hbehind : ∀ {x y : List Char} {P : Char → Prop}, (∀ m ∈ x ++ c :: y, P m) →
        ∀ m ∈ y, P m := fun hP m hm => hP m (List.mem_append_right _ (List.mem_cons_of_mem c hm))
    have hnext : Rearranged r q := ih (hbehind hs) (hbehind ht)
      (fun hm => hs' (List.mem_append_right u (List.mem_cons_of_mem c hm)))
      (fun hm => ht' (List.mem_append_right v (List.mem_cons_of_mem c hm)))
      hrest.of_append hr hq.symm
    exact (hfront.append_right _).trans ((hnext.cons c).append_left v)

/-! ## 3. Iotas as letters -/

/-- The Greek letter iota. -/
def iotaBeside : Char := Char.ofNat 0x3B9

/-- A text with its iotas below written as letters. -/
def adscript (s : List Char) : List Char :=
  s.map fun c => if c = iotaBelow then iotaBeside else c

theorem adscript_append (s t : List Char) : adscript (s ++ t) = adscript s ++ adscript t :=
  List.map_append

theorem adscript_cons (c : Char) (s : List Char) :
    adscript (c :: s) = (if c = iotaBelow then iotaBeside else c) :: adscript s := rfl

/-- The letter is a starter that folds to itself; the mark folds to the letter. -/
theorem iotaBeside_spec : markClass iotaBeside = 0 ∧ decompose iotaBeside = [iotaBeside] ∧
    foldChar iotaBeside = [iotaBeside] ∧ foldChar iotaBelow = [iotaBeside] := by
  have hstarter : markClass iotaBeside = 0 := by decide +kernel
  have hwhole : decompose iotaBeside = [iotaBeside] :=
    decompose_eq_self (fun h => absurd h.1 (by decide)) (by decide +kernel)
  have hfold : foldImage 0x3B9 = [0x3B9] ∧ foldImage 0x345 = [0x3B9] := by decide +kernel
  refine ⟨hstarter, hwhole, ?_, ?_⟩
  · rw [foldChar_eq_image]
    exact congrArg (List.map Char.ofNat) hfold.1
  · rw [foldChar_eq_image]
    exact congrArg (List.map Char.ofNat) hfold.2

theorem markClass_iotaBelow : markClass iotaBelow = 240 := by decide +kernel

/-- The iota below has a class to itself. -/
theorem markRanges_iota : (markRanges.toList.all fun r =>
    r.2.2 != 240 || (r.1 == 0x345 && r.2.1 == 0x345)) = true := by
  decide +kernel

/-- **No other mark has the class of the iota below.** -/
theorem eq_iotaBelow_iff : markClass c = markClass iotaBelow ↔ c = iotaBelow := by
  refine ⟨fun h => ?_, fun h => h ▸ rfl⟩
  rw [markClass_iotaBelow] at h
  unfold markClass at h
  split at h
  · cases h
  · split at h
    · next lo hi k hfound =>
      split at h
      · next hhi =>
        have hlo : lo ≤ c.toNat := lastAtMost_le hfound
        have hrange := List.all_eq_true.mp markRanges_iota _ (lastAtMost_mem hfound)
        simp [h] at hrange
        obtain ⟨rfl, rfl⟩ := hrange
        have hcode : c.toNat = 0x345 := by omega
        rw [← Char.ofNat_toNat c, hcode]
        rfl
      · cases h
    · cases h

theorem iotaBelow_not_mem_adscript (s : List Char) : iotaBelow ∉ adscript s := by
  intro h
  obtain ⟨c, -, hc⟩ := List.mem_map.mp h
  split at hc
  · exact absurd hc (by decide)
  · next hne => exact hne hc

theorem atomic_adscript (hs : Atomic s) : Atomic (adscript s) := by
  intro d hd
  obtain ⟨c, hc, rfl⟩ := List.mem_map.mp hd
  split
  · exact iotaBeside_spec.2.1
  · exact hs c hc

/-- An iota below and the letter fold alike. -/
theorem foldText_adscript (s : List Char) : foldText (adscript s) = foldText s := by
  induction s with
  | nil => rfl
  | cons c s ih =>
    rw [adscript_cons, foldText_cons, foldText_cons, ih]
    split
    · next h => rw [h, iotaBeside_spec.2.2.1, iotaBeside_spec.2.2.2]
    · rfl

/-- Exchanging marks does not change the order of starters, the iotas among them. -/
theorem filter_adscript (h : Rearranged s t) :
    (adscript s).filter isStarter = (adscript t).filter isStarter := by
  induction h with
  | refl s => rfl
  | cons c _ ih => rw [adscript_cons, adscript_cons, List.filter_cons, List.filter_cons, ih]
  | @swap c d s hc hd hne =>
    have hclass : isStarter c = false ∧ isStarter d = false := by simp [isStarter, hc, hd]
    by_cases hc' : c = iotaBelow
    · have hd' : d ≠ iotaBelow := fun heq => hne (hc'.trans heq.symm ▸ rfl)
      simp [adscript_cons, hc', hd', hclass.2, List.filter_cons]
    · simp [adscript_cons, hc', hclass.1, List.filter_cons]
  | trans _ _ ih ih' => exact ih.trans ih'

/-- **Folding keeps two spellings together just if they are still spellings of one text with the
    iotas below as letters.** -/
theorem rearranged_foldText_iff (h : Rearranged s t) (hs : Atomic s) :
    Rearranged (decomposed (foldText s)) (decomposed (foldText t)) ↔
      Rearranged (adscript s) (adscript t) := by
  have ht : Atomic t := hs.of_perm h.perm
  rw [← foldText_adscript s, ← foldText_adscript t]
  constructor
  · exact rearranged_of_foldText (atomic_adscript hs) (atomic_adscript ht)
      (iotaBelow_not_mem_adscript s) (iotaBelow_not_mem_adscript t) (filter_adscript h)
  · intro hletters
    exact rearranged_foldText hletters (atomic_adscript hs) (iotaBelow_not_mem_adscript s)

/-! ## 4. Iotas that stand apart -/

/-- Of two marks side by side both are iotas below or neither is. -/
def IotasApart (s : List Char) : Prop :=
  s.IsChain fun c d => markClass c ≠ 0 → markClass d ≠ 0 → (c = iotaBelow ↔ d = iotaBelow)

/-- **Where iotas stand apart, exchanging marks moves no mark past one**, whatever stands before
    the marks. -/
theorem rearranged_adscript (h : Rearranged s t) (b : Char) (hs : IotasApart (b :: s)) :
    IotasApart (b :: t) ∧ Rearranged (adscript s) (adscript t) := by
  induction h generalizing b with
  | refl s => exact ⟨hs, .refl _⟩
  | cons c _ ih =>
    obtain ⟨hbc, hrest⟩ := List.isChain_cons_cons.mp hs
    obtain ⟨ht, hletters⟩ := ih c hrest
    exact ⟨List.isChain_cons_cons.mpr ⟨hbc, ht⟩, hletters.cons _⟩
  | @swap c d s hc hd hne =>
    obtain ⟨hbc, hrest⟩ := List.isChain_cons_cons.mp hs
    obtain ⟨hcd, hrest⟩ := List.isChain_cons_cons.mp hrest
    have hsame : c = iotaBelow ↔ d = iotaBelow := hcd hc hd
    have hc' : c ≠ iotaBelow := fun heq => hne (heq.trans (hsame.mp heq).symm ▸ rfl)
    have hd' : d ≠ iotaBelow := fun heq => hc' (hsame.mpr heq)
    refine ⟨List.isChain_cons_cons.mpr ⟨fun hb _ => (hbc hb hc).trans hsame,
      List.isChain_cons_cons.mpr ⟨fun _ _ => hsame.symm, ?_⟩⟩, ?_⟩
    · exact List.IsChain.imp_head (fun hde _ he => hsame.trans (hde hd he)) hrest
    · simp only [adscript_cons, if_neg hc', if_neg hd']
      exact .swap _ hc hd hne
  | trans _ _ ih ih' =>
    obtain ⟨ht, hletters⟩ := ih b hs
    obtain ⟨hu, hletters'⟩ := ih' b ht
    exact ⟨hu, hletters.trans hletters'⟩

/-- A starter does not pass a mark. -/
theorem not_rearranged_swap (hc : markClass c = 0) (hd : markClass d ≠ 0) :
    ¬ Rearranged (c :: d :: s) (d :: c :: s) := by
  intro h
  have hcut := Rearranged.cut (u := []) (v := [d]) nofun (by simpa using hd) hc hc h
  exact absurd hcut.1.perm.length_eq (by simp)

/-- **Where an iota stands next to another mark, exchanging the two makes a spelling with other
    letters.** -/
theorem iotasApart_of_forall (hs : Atomic s)
    (h : ∀ t, Rearranged s t → Rearranged (adscript s) (adscript t)) : IotasApart s := by
  refine (List.isChain_isInfix s).imp fun c d hcd hc hd => ?_
  obtain ⟨front, rear, rfl⟩ := hcd
  have hsplit : front ++ [c, d] ++ rear = front ++ c :: d :: rear := by simp
  rw [hsplit] at h hs
  have hletters : ∀ hne : markClass c ≠ markClass d,
      Rearranged (adscript (c :: d :: rear)) (adscript (d :: c :: rear)) := by
    intro hne
    have hfront := h _ ((Rearranged.swap rear hc hd hne).append_left front)
    rw [adscript_append, adscript_append] at hfront
    exact hfront.of_append
  constructor
  · rintro rfl
    by_contra hd'
    have hswap := hletters fun heq => hd' (eq_iotaBelow_iff.mp heq.symm)
    simp only [adscript_cons, if_true, if_neg hd'] at hswap
    exact not_rearranged_swap iotaBeside_spec.1 hd hswap
  · rintro rfl
    by_contra hc'
    have hswap := hletters fun heq => hc' (eq_iotaBelow_iff.mp heq)
    simp only [adscript_cons, if_true, if_neg hc'] at hswap
    exact not_rearranged_swap iotaBeside_spec.1 hc hswap.symm

end Case

/-! ## 5. When spellings are compared alike -/

open MapQuery.Text.Normal Case

variable {s t : String}

theorem fold_eq_iff (h : Equivalent s t) : fold s false = fold t false ↔
    Rearranged (adscript (decomposed s.toList)) (adscript (decomposed t.toList)) := by
  rw [← rearranged_foldText_iff (equivalent_iff.mp h) (atomic_decomposed _), decomposed_foldText,
    decomposed_foldText, ← composed_eq_iff]
  exact ⟨fun hfold => String.ofList_injective hfold, fun hfold => congrArg String.ofList hfold⟩

/-- **All spellings of a text fold alike just if its iotas below stand apart from other marks.** -/
theorem foldsAlike_iff_iotasApart : FoldsAlike s ↔ IotasApart (decomposed s.toList) := by
  constructor
  · intro hs
    refine iotasApart_of_forall (atomic_decomposed _) fun t ht => ?_
    have hatomic : decomposed (String.ofList t).toList = t := by
      rw [String.toList_ofList, ((atomic_decomposed _).of_perm ht.perm).decomposed_eq]
    have hspelling : Equivalent s (String.ofList t) := equivalent_iff.mpr (hatomic.symm ▸ ht)
    have hletters := (fold_eq_iff hspelling).mp (hs _ hspelling)
    rwa [hatomic] at hletters
  · intro hs t ht
    have hstarter : IotasApart (iotaBeside :: decomposed s.toList) :=
      hs.cons fun _ _ hmark => absurd iotaBeside_spec.1 hmark
    exact (fold_eq_iff ht).mpr (rearranged_adscript (equivalent_iff.mp ht) _ hstarter).2

/-- **When spellings of one text are compared alike**: always where case counts, and where it does
    not, just if they are still spellings of one text with each iota below as a letter. Spellings
    that are compared alike hold the same needles, and no others do. So all spellings of a text are
    compared alike where case does not count just if no iota below stands next to another mark. -/
theorem fold_spellings (h : Equivalent s t) (caseSensitive : Bool) :
    (fold s caseSensitive = fold t caseSensitive ↔ caseSensitive = true ∨
      Rearranged (adscript (decomposed s.toList)) (adscript (decomposed t.toList))) ∧
    ((∀ needle, contains s needle caseSensitive = contains t needle caseSensitive) ↔
      fold s caseSensitive = fold t caseSensitive) ∧
    ((∀ t', Equivalent s t' → fold s caseSensitive = fold t' caseSensitive) ↔
      caseSensitive = true ∨ IotasApart (decomposed s.toList)) := by
  refine ⟨?_, fold_eq_iff_contains.symm, ?_⟩
  · cases caseSensitive with
    | true => exact iff_of_true (fold_eq_of_equivalent h) (.inl rfl)
    | false => simpa using fold_eq_iff h
  · cases caseSensitive with
    | true => exact iff_of_true (fun _ => fold_eq_of_equivalent) (.inl rfl)
    | false => exact foldsAlike_iff_iotasApart.trans (by simp)

/-- An alpha with an accent above and an iota below, as one character and with the iota typed before
    the accent: the accent lands on the letter iota. -/
theorem fold_spellings_alpha :
    Equivalent "\u1FB4" "α\u0345\u0301" ∧
      fold "\u1FB4" true = fold "α\u0345\u0301" true ∧
      fold "\u1FB4" false ≠ fold "α\u0345\u0301" false ∧
      ∃ needle, contains "\u1FB4" needle false ≠ contains "α\u0345\u0301" needle false := by
  have hone : decomposed "\u1FB4".toList = ['α', Char.ofNat 0x301, iotaBelow] :=
    (List.append_nil _).trans
      (decompose_of_mem (e := (0x1FB4, [0x3B1, 0x301, 0x345])) (by decide +kernel) rfl)
  have hatomic : Atomic ['α', Char.ofNat 0x301, iotaBelow] := hone ▸ atomic_decomposed _
  have hswap : Rearranged [iotaBelow, Char.ofNat 0x301] [Char.ofNat 0x301, iotaBelow] :=
    .swap [] (by decide +kernel) (by decide +kernel) (by decide +kernel)
  have htyped : decomposed "α\u0345\u0301".toList = ['α', iotaBelow, Char.ofNat 0x301] :=
    (hatomic.of_perm (hswap.symm.cons 'α').perm).decomposed_eq
  have h : Equivalent "\u1FB4" "α\u0345\u0301" := by
    rw [equivalent_iff, hone, htyped]
    exact hswap.symm.cons 'α'
  obtain ⟨hcase, -, -⟩ := fold_spellings h true
  obtain ⟨hfold, hneedle, -⟩ := fold_spellings h false
  have hapart : fold "\u1FB4" false ≠ fold "α\u0345\u0301" false := by
    intro heq
    have hletters := (hfold.mp heq).resolve_left Bool.false_ne_true
    rw [hone, htyped] at hletters
    have hmarks : Rearranged [Char.ofNat 0x301, iotaBeside] [iotaBeside, Char.ofNat 0x301] :=
      Rearranged.of_append (u := ['α']) hletters
    exact not_rearranged_swap iotaBeside_spec.1 (by decide +kernel) hmarks.symm
  refine ⟨h, hcase.mpr (.inl rfl), hapart, ?_⟩
  by_contra hnone
  exact hapart (hneedle.mp (by simpa using hnone))

end MapQuery.Text
