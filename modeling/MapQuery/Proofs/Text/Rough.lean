import MapQuery.Text.Rough
import Mathlib.Data.List.Basic

/-!
# Rough texts as lists of codes

A rough text and the list of its codes determine each other, and joining texts joins their codes. A
text is clean just if it is one of characters, and only clean texts can be written.

* `ofPoints_points`, `points_ofPoints` -- a text and its codes;
* `points_append`, `points_join` -- texts that are joined;
* `clean_append`, `clean_iff` -- clean texts;
* `encode_eq_ok_iff`, `encode_of_not_clean` -- texts that are written, and those that are not;
* `plain_append`, `chars_append` -- what stands for a text where only characters can stand.
-/

namespace MapQuery.Rough

variable {a b w : Rough} {s : String}

/-! ## 1. Codes -/

@[simp] theorem points_ofString (s : String) : (s : Rough).points = s.toList.map .char :=
  List.append_nil _

theorem runs_chars (cs : List Char) (ps : List CodePoint) :
    runs (cs.map .char ++ ps) = (cs ++ (runs ps).1, (runs ps).2) := by
  induction cs with
  | nil => rfl
  | cons c cs ih =>
    rw [List.map_cons, List.cons_append, runs, ih]
    rfl

theorem runs_tail (tail : List (Half × String)) :
    runs (tail.flatMap fun p => .half p.1 :: p.2.toList.map .char) = ([], tail) := by
  induction tail with
  | nil => rfl
  | cons p tail ih =>
    rw [List.flatMap_cons, List.cons_append, runs, runs_chars, ih]
    simp

/-- **A text consists of its codes.** -/
@[simp] theorem ofPoints_points (w : Rough) : ofPoints w.points = w := by
  unfold ofPoints points
  rw [runs_chars, runs_tail]
  simp

/-- **The codes of a text are those that it was made of.** -/
@[simp] theorem points_ofPoints (ps : List CodePoint) : (ofPoints ps).points = ps := by
  induction ps with
  | nil => rfl
  | cons p ps ih =>
    unfold ofPoints points at ih ⊢
    cases p with
    | char c =>
      rw [runs]
      dsimp only at ih ⊢
      rw [String.toList_ofList] at ih ⊢
      rw [List.map_cons, List.cons_append, ih]
    | half h =>
      rw [runs]
      dsimp only at ih ⊢
      rw [String.toList_ofList] at ih
      show .half h :: ((String.ofList (runs ps).1).toList.map CodePoint.char ++ _) = _
      rw [String.toList_ofList]
      exact congrArg (.half h :: ·) ih

theorem ofPoints_chars (cs : List Char) : ofPoints (cs.map .char) = String.ofList cs := by
  rw [← ofPoints_points (String.ofList cs : String), points_ofString, String.toList_ofList]

@[simp] theorem points_append (a b : Rough) : (a ++ b).points = a.points ++ b.points := by
  have hjoin : ∀ head tail, (joinTail b head tail).points =
      (⟨head, tail⟩ : Rough).points ++ b.points := by
    intro head tail
    induction tail generalizing head with
    | nil =>
      unfold joinTail points
      simp
    | cons p tail ih =>
      have hrest := ih p.2
      unfold points at hrest ⊢
      simp only [joinTail, List.flatMap_cons, List.cons_append, List.append_assoc, hrest]
  exact hjoin a.head a.tail

theorem points_join (between : Rough) (ws : List Rough) :
    (join between ws).points = between.points.intercalate (ws.map points) := by
  induction ws with
  | nil => rfl
  | cons w ws ih =>
    cases ws with
    | nil => simp [join, List.intercalate]
    | cons v ws =>
      rw [join, points_append, points_append, ih]
      · simp [List.intercalate]
      · exact nofun

/-- What is in joined texts is in one of them, if it is not in what stands between them. -/
theorem mem_join_iff {between : Rough} {c : CodePoint} (hc : c ∉ between.points) {ws : List Rough} :
    c ∈ (join between ws).points ↔ ∃ w ∈ ws, c ∈ w.points := by
  induction ws with
  | nil => simp [join]
  | cons w ws ih =>
    cases ws with
    | nil => simp [join]
    | cons v ws =>
      have hjoin : join between (w :: v :: ws) = w ++ between ++ join between (v :: ws) := rfl
      rw [List.exists_mem_cons_iff, ← ih, hjoin, points_append, points_append, List.mem_append,
        List.mem_append, or_iff_left hc]

/-- The pieces between the separators of a list hold what is in it, except for the separators. -/
theorem mem_of_mem_splitOn {s piece : List CodePoint} {separator c : CodePoint}
    (h : piece ∈ s.splitOn separator) (hc : c ∈ piece) : c ∈ s ∧ c ≠ separator := by
  induction s generalizing piece with
  | nil =>
    rw [List.splitOn_nil, List.mem_singleton] at h
    rw [h] at hc
    cases hc
  | cons d s ih =>
    have hbehind : ∀ {piece}, piece ∈ s.splitOn separator → c ∈ piece →
        c ∈ d :: s ∧ c ≠ separator :=
      fun h hc => (ih h hc).imp_left (List.mem_cons_of_mem d)
    rw [List.splitOn_eq_splitOnP, List.splitOnP_cons_eq_if_modifyHead,
      ← List.splitOn_eq_splitOnP] at h
    split at h
    · rcases List.mem_cons.mp h with rfl | h
      · cases hc
      · exact hbehind h hc
    · next hd =>
      cases hs : s.splitOn separator with
      | nil => exact absurd hs (List.splitOn_ne_nil separator s)
      | cons first rest =>
        rw [hs, List.modifyHead_cons] at h
        rw [hs] at hbehind
        rcases List.mem_cons.mp h with rfl | h
        · rcases List.mem_cons.mp hc with rfl | hc
          · exact ⟨List.mem_cons_self, fun heq => hd (beq_iff_eq.mpr heq)⟩
          · exact hbehind List.mem_cons_self hc
        · exact hbehind (List.mem_cons_of_mem _ h) hc

/-! ## 2. Clean texts -/

/-- The halves of a text in order. -/
def halves (w : Rough) : List Half := w.tail.map Prod.fst

theorem mem_halves_iff {h : Half} : h ∈ w.halves ↔ .half h ∈ w.points := by
  unfold halves points
  simp [List.mem_flatMap]

@[simp] theorem clean_ofString (s : String) : (s : Rough).Clean := rfl

/-- **A text is clean just if it is one of characters.** -/
theorem clean_iff : w.Clean ↔ ∃ s : String, w = s := by
  obtain ⟨head, tail⟩ := w
  constructor
  · intro h
    cases h
    exact ⟨head, rfl⟩
  · intro h
    obtain ⟨s, hs⟩ := h
    exact hs ▸ clean_ofString s

@[simp] theorem halves_ofString (s : String) : (s : Rough).halves = [] := rfl

theorem halves_append (a b : Rough) : (a ++ b).halves = a.halves ++ b.halves := by
  have hjoin : ∀ head tail, (joinTail b head tail).halves = tail.map Prod.fst ++ b.halves := by
    intro head tail
    induction tail generalizing head with
    | nil => rfl
    | cons p tail ih => exact congrArg (p.1 :: ·) (ih p.2)
  exact hjoin a.head a.tail

theorem clean_iff_halves : w.Clean ↔ w.halves = [] := List.map_eq_nil_iff.symm

theorem clean_iff_points : w.Clean ↔ ∀ h, .half h ∉ w.points := by
  rw [clean_iff_halves, List.eq_nil_iff_forall_not_mem]
  exact forall_congr' fun _ => not_congr mem_halves_iff

/-- **Joined texts are clean just if both are.** -/
@[simp] theorem clean_append : (a ++ b).Clean ↔ a.Clean ∧ b.Clean := by
  rw [clean_iff_halves, clean_iff_halves, clean_iff_halves, halves_append, List.append_eq_nil_iff]

theorem halves_mapRuns (f : String → String) : (w.mapRuns f).halves = w.halves := by
  unfold halves mapRuns
  rw [List.map_map]
  rfl

theorem ofString_append (s t : String) : ((s ++ t : String) : Rough) = (s : Rough) ++ (t : Rough) :=
  rfl

/-! ## 3. Texts that are written -/

theorem faultFrom_eq_none_iff {passes : Half → Bool} {tail : List (Half × String)}
    {position : Nat} : faultFrom passes position tail = none ↔ ∀ p ∈ tail, passes p.1 = true := by
  induction tail generalizing position with
  | nil => exact ⟨fun _ => nofun, fun _ => rfl⟩
  | cons p tail ih =>
    obtain ⟨h, s⟩ := p
    rw [List.forall_mem_cons, faultFrom]
    split
    · next hp => rw [ih, and_iff_right hp]
    · next hp => exact ⟨nofun, fun hall => absurd hall.1 hp⟩

/-- **Nothing stands in the way of a text just if all its halves are let pass.** -/
theorem fault?_eq_none_iff {passes : Half → Bool} :
    w.fault? passes = none ↔ ∀ h ∈ w.halves, passes h = true :=
  faultFrom_eq_none_iff.trans (by rw [halves, List.forall_mem_map])

/-- **A text is written as it is just if it is one of characters.** -/
theorem encode_eq_ok_iff : w.encode = .ok s ↔ w = s := by
  obtain ⟨head, tail⟩ := w
  cases tail with
  | nil =>
    show Except.ok head = .ok s ↔ (head : Rough) = s
    rw [Except.ok.injEq]
    exact ⟨fun h => h ▸ rfl, fun h => congrArg Rough.head h⟩
  | cons p tail => exact ⟨nofun, nofun⟩

/-- A text that is not clean cannot be written. -/
theorem encode_of_not_clean (h : ¬ w.Clean) : ∃ e, w.encode = .error e := by
  cases hw : w.encode with
  | ok s => exact absurd (clean_iff.mpr ⟨s, encode_eq_ok_iff.mp hw⟩) h
  | error e => exact ⟨e, rfl⟩

/-! ## 4. Characters in place of halves -/

theorem plain_append (a b : Rough) : (a ++ b).plain = a.plain ++ b.plain := by
  have hfold : ∀ (tail : List (Half × String)) (s t : String),
      tail.foldl (fun s p => s.push p.1.standIn ++ p.2) (s ++ t) =
        s ++ tail.foldl (fun s p => s.push p.1.standIn ++ p.2) t := by
    intro tail
    induction tail with
    | nil => exact fun _ _ => rfl
    | cons p tail ih =>
      intro s t
      rw [List.foldl_cons, List.foldl_cons, ← ih]
      congr 1
      rw [← String.toList_inj]
      simp
  have hjoin : ∀ head tail, (joinTail b head tail).plain =
      (⟨head, tail⟩ : Rough).plain ++ b.plain := by
    intro head tail
    induction tail generalizing head with
    | nil => exact hfold b.tail head b.head
    | cons p tail ih =>
      have hrest := ih p.2
      unfold plain at hrest ⊢
      rw [joinTail, List.foldl_cons, List.foldl_cons, hfold, hfold, hrest, String.append_assoc]
  exact hjoin a.head a.tail

/-- The characters of a text, with private ones in place of halves. -/
def chars (w : Rough) : List Char := w.plain.toList

@[simp] theorem chars_ofString (s : String) : (s : Rough).chars = s.toList := rfl

@[simp] theorem chars_append (a b : Rough) : (a ++ b).chars = a.chars ++ b.chars := by
  unfold chars
  rw [plain_append, String.toList_append]

end MapQuery.Rough
