import MapQuery.Command.Output
import MapQuery.Proofs.Text.Rough

/-!
# Marked-up texts have no halves of their own

Whatever is done to a text before it is shown, no half is added to it. So what is shown of a clean
text is clean.

* `half_mem_render`, `half_mem_escape` -- a half that is shown stands in the text;
* `clean_messageText` -- messages.
-/

namespace MapQuery.Screen

variable {h : Half} {s : List CodePoint}

/-! ## 1. Emoji -/

namespace Emoji

theorem half_notMem_code {name emoji : List CodePoint} (hcode : code? name = some emoji) :
    .half h ∉ emoji := by
  unfold code? at hcode
  obtain ⟨chars, -, hcode⟩ := Option.bind_eq_some_iff.mp hcode
  split at hcode
  · cases hcode
  · obtain ⟨found, -, rfl⟩ := Option.map_eq_some_iff.mp hcode
    simp

theorem half_mem_takeEnding {look rest : List CodePoint} (ht : takeEnding s = some (look, rest)) :
    .half h ∉ look ∧ (.half h ∈ rest → .half h ∈ s) := by
  unfold takeEnding at ht
  obtain ⟨⟨ending, look'⟩, hmem, ht⟩ := List.exists_of_findSome?_eq_some ht
  dsimp only at ht
  split at ht
  · cases ht
    refine ⟨?_, List.mem_of_mem_drop⟩
    simp only [endings, List.mem_cons, Prod.mk.injEq, List.not_mem_nil, or_false] at hmem
    rcases hmem with ⟨-, rfl⟩ | ⟨-, rfl⟩ | ⟨-, rfl⟩ <;> simp
  · cases ht

theorem half_mem_takeCode {passed name look rest : List CodePoint}
    (ht : takeCode passed s = some (name, look, rest)) :
    .half h ∉ look ∧ (.half h ∈ rest → .half h ∈ s) := by
  induction s generalizing passed with
  | nil =>
    unfold takeCode at ht
    split at ht
    · next hending =>
      cases ht
      exact half_mem_takeEnding hending
    · cases ht
  | cons c r ih =>
    unfold takeCode at ht
    split at ht
    · next hending =>
      cases ht
      exact half_mem_takeEnding hending
    · dsimp only at ht
      split at ht
      · cases ht
      · exact (ih ht).imp_right fun hrest hmem => List.mem_cons_of_mem _ (hrest hmem)

theorem half_mem_replaceUpTo {n : Nat} (hm : .half h ∈ replaceUpTo n s) : .half h ∈ s := by
  induction n generalizing s with
  | zero => exact hm
  | succ n ih =>
    cases s with
    | nil => exact hm
    | cons c r =>
      unfold replaceUpTo at hm
      split at hm
      · split at hm
        · next name look rest hcode =>
          obtain ⟨hlook, hrest⟩ := half_mem_takeCode hcode
          rcases List.mem_append.mp hm with hm | hm
          · split at hm
            · next emoji hemoji =>
              rcases List.mem_append.mp hm with hm | hm
              · exact absurd hm (half_notMem_code hemoji)
              · exact absurd hm hlook
            · rcases List.mem_cons.mp hm with rfl | hm
              · exact List.mem_cons_self
              · exact List.mem_cons_of_mem _ (List.mem_of_mem_take hm)
          · exact List.mem_cons_of_mem _ (hrest (ih hm))
        · rcases List.mem_cons.mp hm with rfl | hm
          · exact List.mem_cons_self
          · exact List.mem_cons_of_mem _ (ih hm)
      · rcases List.mem_cons.mp hm with rfl | hm
        · exact List.mem_cons_self
        · exact List.mem_cons_of_mem _ (ih hm)

end Emoji

/-! ## 2. Tags -/

/-- A half stands in a part of a text. -/
def Part.Has (h : Half) : Part → Prop
  | .single c => c = .half h
  | .tag _ text => .half h ∈ text

theorem half_mem_takeTag {tag rest : List CodePoint} (ht : takeTag s = some (tag, rest)) :
    (.half h ∈ tag → .half h ∈ s) ∧ (.half h ∈ rest → .half h ∈ s) := by
  unfold takeTag at ht
  split at ht
  · next c r =>
    split at ht
    · split at ht
      · next hbehind =>
        cases ht
        refine ⟨fun hm => ?_, fun hm => ?_⟩
        · simp only [List.cons_append, List.mem_cons, List.mem_append, List.not_mem_nil, or_false,
            reduceCtorEq, false_or] at hm ⊢
          exact List.takeWhile_subset _ hm
        · have hmem : .half h ∈ r.dropWhile isInTag := hbehind ▸ List.mem_cons_of_mem _ hm
          exact List.mem_cons_of_mem _ (List.mem_cons_of_mem _ (List.dropWhile_subset _ hmem))
      · cases ht
    · cases ht
  · cases ht

/-- A half in a part of a text stands in the text. -/
theorem half_mem_of_has {n : Nat} {p : Part} (hp : p ∈ partsUpTo n s) (hhas : p.Has h) :
    .half h ∈ s := by
  induction n generalizing s with
  | zero => cases hp
  | succ n ih =>
    unfold partsUpTo at hp
    split at hp
    · next tag rest htag =>
      have hbehind : ∀ {c}, c ∈ s.dropWhile (· == slash) → c ∈ s :=
        fun hm => List.dropWhile_subset _ hm
      obtain ⟨htext, hrest⟩ := half_mem_takeTag htag
      rcases List.mem_cons.mp hp with rfl | hp
      · exact hbehind (htext hhas)
      · exact hbehind (hrest (ih hp))
    · split at hp
      · cases hp
      · rcases List.mem_cons.mp hp with rfl | hp
        · exact hhas ▸ List.mem_cons_self
        · exact List.mem_cons_of_mem _ (ih hp)

theorem half_notMem_slashes {n : Nat} : .half h ∉ slashes n := by
  intro hm
  cases List.eq_of_mem_replicate hm

theorem half_mem_guardEnd (hm : .half h ∈ guardEnd s) : .half h ∈ s := by
  unfold guardEnd at hm
  split at hm
  · split at hm
    · rcases List.mem_append.mp hm with hm | hm
      · exact hm
      · cases List.mem_singleton.mp hm
    · exact hm
  · exact hm

/-- **A half in a text with its tags made text stands in the text.** -/
theorem half_mem_escape (hm : .half h ∈ escape s) : .half h ∈ s := by
  obtain ⟨p, hp, hm⟩ := List.mem_flatMap.mp (half_mem_guardEnd hm)
  refine half_mem_of_has hp ?_
  cases p with
  | single c => exact (List.mem_singleton.mp hm).symm
  | tag n text => exact (List.mem_append.mp hm).resolve_left half_notMem_slashes

theorem half_mem_dropBracketSlashes (hm : .half h ∈ dropBracketSlashes s) : .half h ∈ s := by
  induction s using dropBracketSlashes.induct with
  | case1 => exact hm
  | case2 r ih =>
    rw [dropBracketSlashes] at hm
    rcases List.mem_cons.mp hm with hm | hm
    · cases hm
    · exact List.mem_cons_of_mem _ (List.mem_cons_of_mem _ (ih hm))
  | case3 c r hother ih =>
    rw [dropBracketSlashes] at hm
    · rcases List.mem_cons.mp hm with rfl | hm
      · exact List.mem_cons_self
      · exact List.mem_cons_of_mem _ (ih hm)
    · exact hother

theorem half_mem_renderText (hm : .half h ∈ renderText s) : .half h ∈ s :=
  half_mem_dropBracketSlashes (Emoji.half_mem_replaceUpTo hm)

theorem half_mem_renderParts {before : List CodePoint} {ps : List Part}
    (hm : .half h ∈ renderParts before ps) : .half h ∈ before ∨ ∃ p ∈ ps, p.Has h := by
  induction ps generalizing before with
  | nil => exact .inl (List.mem_reverse.mp (half_mem_renderText hm))
  | cons p ps ih =>
    rw [List.exists_mem_cons_iff]
    cases p with
    | single c =>
      rcases ih hm with hbefore | hrest
      · rcases List.mem_cons.mp hbefore with hc | hbefore
        · exact .inr (.inl hc.symm)
        · exact .inl hbefore
      · exact .inr (.inr hrest)
    | tag n text =>
      rw [renderParts, List.append_assoc, List.append_assoc, List.mem_append, List.mem_append,
        List.mem_append] at hm
      rcases hm with hm | hm | hm | hm
      · exact .inl (List.mem_reverse.mp (half_mem_renderText hm))
      · exact absurd hm half_notMem_slashes
      · split at hm
        · exact .inr (.inl (half_mem_renderText hm))
        · cases hm
      · exact .inr (.inr ((ih hm).resolve_left List.not_mem_nil))

/-- **A half that is shown of a marked-up text stands in it.** -/
theorem half_mem_render (hm : .half h ∈ render s) : .half h ∈ s := by
  obtain ⟨hm, -⟩ := List.mem_filter.mp hm
  obtain ⟨p, hp, hhas⟩ := (half_mem_renderParts hm).resolve_left List.not_mem_nil
  exact half_mem_of_has hp hhas

/-! ## 3. Lines -/

theorem half_mem_expandTabs {column : Nat} (hm : .half h ∈ expandTabs column s) : .half h ∈ s := by
  induction s generalizing column with
  | nil => exact hm
  | cons c r ih =>
    unfold expandTabs at hm
    split at hm
    · rcases List.mem_append.mp hm with hm | hm
      · cases List.eq_of_mem_replicate hm
      · exact List.mem_cons_of_mem _ (ih hm)
    · rcases List.mem_cons.mp hm with rfl | hm
      · exact List.mem_cons_self
      · exact List.mem_cons_of_mem _ (ih hm)

/-- A half in the lines of a text stands in the text. -/
theorem half_mem_lines (hm : .half h ∈ (printed (lines s)).points) : .half h ∈ s := by
  unfold printed at hm
  rw [Rough.points_ofPoints] at hm
  obtain ⟨l, hl, hm⟩ := List.mem_flatMap.mp hm
  obtain ⟨piece, hpiece, rfl⟩ := List.mem_map.mp hl
  rcases List.mem_append.mp hm with hm | hm
  · exact (Rough.mem_of_mem_splitOn hpiece (half_mem_expandTabs hm)).1
  · cases List.mem_singleton.mp hm

end MapQuery.Screen

namespace MapQuery.Command

/-- **A message is shown as a clean text if it is one.** -/
theorem clean_messageText {before message after : Rough} (hbefore : before.Clean)
    (hmessage : message.Clean) (hafter : after.Clean) :
    (messageText before message after).Clean := by
  rw [Rough.clean_iff_points] at hbefore hmessage hafter ⊢
  intro h hm
  have hsource := Screen.half_mem_render (Screen.half_mem_lines hm)
  rw [List.mem_append, List.mem_append] at hsource
  rcases hsource with (hm | hm) | hm
  · exact hbefore h hm
  · exact hmessage h (Screen.half_mem_escape hm)
  · exact hafter h hm

end MapQuery.Command
