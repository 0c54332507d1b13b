import MapQuery.Proofs.Predicate.Chain
import MapQuery.Proofs.Text.FoldEdge
import MapQuery.Text.Compare

/-!
# Free text without regard to case

What free text finds where case counts it should find where case does not. It does, but for one
thing: letters can be joined with a mark behind them that only have a composite with it as small
letters. An `H` with a line below is two characters, the first of which is found; folded it is one.

* `Text.Severed` -- a text stands in another, but folding joins it with a mark at its edge;
* `Text.contains_or_severed` -- where a text stands, folded it is found, unless it is severed there;
* `TextTest.severed_of_lost` -- an object that is no longer found has no other places;
* `Graph.found_or_severed` -- on every object of a graph;
* `Graph.lost_without_case` -- an object that is lost.
-/

namespace MapQuery

namespace Text

open MapQuery.Text.Normal (composed markClass composed_composed)

/-! ## 1. Places that folding keeps -/

/-- What a text is compared by where case does not count. -/
def folded (l : List Char) : List Char := composed (Case.foldText l)

/-- A text that folds as its normal form does. -/
def FoldsAsNormal (s : String) : Prop := fold (normalize s) false = fold s false

/-- In normal form, a text stands between two others in a text. -/
def Stands (needle s : String) (front rear : List Char) : Prop :=
  (normalize s).toList = front ++ (normalize needle).toList ++ rear

/-- A text begins with a mark. -/
def BeginsWithMark (l : List Char) : Prop := ∃ c ∈ l.head?, markClass c ≠ 0

/-- A text stands between others, and it or what follows begins with a mark; the whole does not fold
    to what the three pieces fold to. -/
structure Severed (front needle rear : List Char) : Prop where
  mark : BeginsWithMark needle ∨ BeginsWithMark rear
  joined : folded (front ++ needle ++ rear) ≠ folded front ++ folded needle ++ folded rear

variable {u v : List Char} {s needle : String}

theorem toList_normalize (s : String) : (normalize s).toList = composed s.toList :=
  String.toList_ofList

theorem toList_fold (s : String) : (fold s false).toList = folded s.toList := by
  unfold fold
  rw [if_neg Bool.false_ne_true, String.toList_ofList]
  rfl

/-- A text in normal form that is cut where no mark follows folds to what its pieces fold to, the
    first of which is in normal form. -/
theorem folded_append (h : composed (u ++ v) = u ++ v) (hv : ¬ BeginsWithMark v) :
    folded (u ++ v) = folded u ++ folded v ∧ composed u = u := by
  cases v with
  | nil =>
    rw [List.append_nil] at h ⊢
    exact ⟨(List.append_nil (folded u)).symm, h⟩
  | cons c v =>
    have hc : markClass c = 0 := by
      by_contra hmark
      exact hv ⟨c, rfl, hmark⟩
    exact ⟨Case.composed_foldText_append h hc, (Normal.composed_cut_starter h hc).1⟩

/-- Where case counts, a text is found where it stands. -/
theorem contains_iff_stands :
    contains s (fold needle true) true = true ↔ ∃ front rear, Stands needle s front rear :=
  isInfixOf_iff _ _

/-- **Where a text stands in another, it is found without regard to case**, unless it is severed
    there. -/
theorem contains_or_severed (hs : FoldsAsNormal s) (hneedle : FoldsAsNormal needle)
    {front rear : List Char} (h : Stands needle s front rear) :
    contains s (fold needle false) false = true ∨
      Severed front (normalize needle).toList rear := by
  have hwhole : (fold s false).toList = folded (front ++ (normalize needle).toList ++ rear) := by
    rw [← hs, toList_fold, show (normalize s).toList = _ from h]
  have hpart : (fold needle false).toList = folded (normalize needle).toList := by
    rw [← hneedle, toList_fold]
  have hnormal : composed (front ++ (normalize needle).toList ++ rear) =
      front ++ (normalize needle).toList ++ rear := by
    rw [← show (normalize s).toList = _ from h, toList_normalize, composed_composed]
  by_cases hpieces : folded (front ++ (normalize needle).toList ++ rear) =
      folded front ++ folded (normalize needle).toList ++ folded rear
  · refine .inl ((isInfixOf_iff _ _).mpr ⟨folded front, folded rear, ?_⟩)
    rw [hwhole, hpart, hpieces]
  · refine .inr ⟨?_, hpieces⟩
    by_contra hmarks
    obtain ⟨hmark, hmark'⟩ := not_or.mp hmarks
    obtain ⟨hrear, hnormal'⟩ := folded_append hnormal hmark'
    obtain ⟨hfront, -⟩ := folded_append hnormal' hmark
    exact hpieces (by rw [hrear, hfront])

/-- A text in normal form folds as its normal form does. -/
theorem foldsAsNormal_of_normal (h : normalize s = s) : FoldsAsNormal s :=
  congrArg (fun t => fold t false) h

/-- So does a text without an iota below. -/
theorem foldsAsNormal_of_not_mem (h : Case.iotaBelow ∉ Normal.decomposed s.toList) :
    FoldsAsNormal s := by
  have hsame : composed s.toList = composed (normalize s).toList := by
    rw [toList_normalize, composed_composed]
  exact congrArg String.ofList (Case.composed_foldText_eq h hsame).symm

end Text

/-! ## 2. Objects that are found -/

/-- All keys and values fold as their normal forms do. -/
def Tags.FoldAsNormal (t : Tags) : Prop :=
  ∀ e ∈ t.entries, Text.FoldsAsNormal e.1 ∧ Text.FoldsAsNormal e.2

/-- A text stands between two others in a key or a value. -/
def Tags.Place (t : Tags) (text : String) (front rear : List Char) : Prop :=
  ∃ e ∈ t.entries, Text.Stands text e.1 front rear ∨ Text.Stands text e.2 front rear

namespace TextTest

/-- A test for free text, its text being prepared. -/
def plain (text : String) (caseSensitive : Bool) : TextTest :=
  ⟨text, ⟨false, caseSensitive⟩, .needle (Text.fold text caseSensitive)⟩

variable {text : String} {p : Primitive}

theorem build_eq_plain (text : String) (caseSensitive : Bool) :
    build text ⟨false, caseSensitive⟩ = .ok (plain text caseSensitive) := rfl

theorem holds_tagged (htags : p.tags.isEmpty = false) (text : String) (caseSensitive : Bool) :
    (plain text caseSensitive).holds p = true ↔ ∃ e ∈ p.tags.entries,
      Text.contains e.1 (Text.fold text caseSensitive) caseSensitive = true ∨
        Text.contains e.2 (Text.fold text caseSensitive) caseSensitive = true := by
  unfold holds
  rw [htags, if_neg Bool.false_ne_true, List.any_eq_true]
  refine exists_congr fun e => and_congr_right fun _ => ?_
  exact Bool.or_eq_true_iff

/-- **An object that is found only where case counts** has the text in its tags, and it is severed at
    every place. -/
theorem severed_of_lost (htext : Text.FoldsAsNormal text) (htags : p.tags.FoldAsNormal)
    (hfound : (plain text true).holds p = true) (hlost : (plain text false).holds p = false) :
    (∃ front rear, p.tags.Place text front rear) ∧ ∀ front rear, p.tags.Place text front rear →
      Text.Severed front (Text.normalize text).toList rear := by
  have htagged : p.tags.isEmpty = false := by
    by_contra hempty
    -- without tags, case makes no difference
    have hsame : (plain text true).holds p = (plain text false).holds p := by
      unfold holds
      rw [Bool.not_eq_false] at hempty
      rw [if_pos hempty, if_pos hempty]
      rfl
    rw [hfound, hlost] at hsame
    cases hsame
  constructor
  · obtain ⟨e, he, hkey | hvalue⟩ := (holds_tagged htagged text true).mp hfound
    · obtain ⟨front, rear, h⟩ := Text.contains_iff_stands.mp hkey
      exact ⟨front, rear, e, he, .inl h⟩
    · obtain ⟨front, rear, h⟩ := Text.contains_iff_stands.mp hvalue
      exact ⟨front, rear, e, he, .inr h⟩
  · have hnot : ∀ e ∈ p.tags.entries, ¬ (Text.contains e.1 (Text.fold text false) false = true ∨
        Text.contains e.2 (Text.fold text false) false = true) := fun e he hcontains => by
      rw [(holds_tagged htagged text false).mpr ⟨e, he, hcontains⟩] at hlost
      cases hlost
    rintro front rear ⟨e, he, hkey | hvalue⟩
    · exact (Text.contains_or_severed (htags e he).1 htext hkey).resolve_left fun h =>
        hnot e he (.inl h)
    · exact (Text.contains_or_severed (htags e he).2 htext hvalue).resolve_left fun h =>
        hnot e he (.inr h)

end TextTest

namespace Graph

/-- **Free text without regard to case.** A text and the keys and values of an object fold as their
    normal forms do, which is so for all texts in normal form and for all texts without an iota
    below. If the text is found where case counts, then it is found where case does not, unless it is
    severed at all places where it stands. -/
theorem found_or_severed (text : String) (htext : Text.FoldsAsNormal text) :
    (∃ t u, TextTest.build text { caseSensitive := true } = .ok t ∧ TextTest.build text {} = .ok u ∧
      ∀ (g : Graph) selection h p, g.get? h = some p → p.tags.FoldAsNormal →
        g.holds selection (.text t) h = .ok true →
          g.holds selection (.text u) h = .ok true ∨
            (∃ front rear, p.tags.Place text front rear) ∧
              ∀ front rear, p.tags.Place text front rear →
                Text.Severed front (Text.normalize text).toList rear) ∧
    ∀ s : String, Text.normalize s = s ∨ Text.Case.iotaBelow ∉ Text.Normal.decomposed s.toList →
      Text.FoldsAsNormal s := by
  refine ⟨⟨_, _, TextTest.build_eq_plain text true, TextTest.build_eq_plain text false,
    fun g selection h p hp htags hfound => ?_⟩,
    fun s hs => hs.elim Text.foldsAsNormal_of_normal Text.foldsAsNormal_of_not_mem⟩
  rw [holds_of_get? hp, holdsAt] at hfound ⊢
  cases hlost : (TextTest.plain text false).holds p with
  | true => exact .inl rfl
  | false => exact .inr (TextTest.severed_of_lost htext htags (Except.ok.inj hfound) hlost)

/-- A node is asked for a letter of its name, behind which there is no mark. -/
theorem found_or_severed_haus :
    let p : Primitive := { id := 1, tags := ⟨[("name", "Haus")]⟩, shape := .node none none }
    let g : Graph := ⟨#[p]⟩
    Text.FoldsAsNormal "H" ∧ p.tags.FoldAsNormal ∧
      ∃ t u, TextTest.build "H" { caseSensitive := true } = .ok t ∧ TextTest.build "H" {} = .ok u ∧
        g.holds none (.text t) 0 = .ok true ∧ g.holds none (.text u) 0 = .ok true := by
  intro p g
  have hget : g.get? 0 = some p := rfl
  have hletter : Text.normalize "H" = "H" := Text.normalize_of_lt (by simp)
  have hname : Text.normalize "Haus" = "Haus" := Text.normalize_of_lt (by simp)
  have htext : Text.FoldsAsNormal "H" := Text.foldsAsNormal_of_normal hletter
  have hentries : p.tags.entries = [("name", "Haus")] := rfl
  have htags : p.tags.FoldAsNormal := by
    intro e he
    rw [hentries] at he
    obtain rfl := List.mem_singleton.mp he
    exact ⟨Text.foldsAsNormal_of_normal (Text.normalize_of_lt (by simp)),
      Text.foldsAsNormal_of_normal hname⟩
  have hstands : Text.Stands "H" "Haus" [] ['a', 'u', 's'] := by
    unfold Text.Stands
    rw [hletter, hname]
    rfl
  have hplace : p.tags.Place "H" [] ['a', 'u', 's'] :=
    ⟨("name", "Haus"), List.mem_singleton_self _, .inr hstands⟩
  obtain ⟨⟨t, u, ht, hu, hcase⟩, -⟩ := found_or_severed "H" htext
  have hfound : g.holds none (.text t) 0 = .ok true := by
    cases ht
    rw [holds_of_get? hget, holdsAt]
    exact congrArg Except.ok ((TextTest.holds_tagged rfl "H" true).mpr
      ⟨_, List.mem_singleton_self _, .inr (Text.contains_iff_stands.mpr ⟨_, _, hstands⟩)⟩)
  refine ⟨htext, htags, t, u, ht, hu, hfound, ?_⟩
  refine (hcase g none 0 p hget htags hfound).resolve_right fun hlost => ?_
  -- neither the letter nor what follows it is a mark
  rcases (hlost.2 _ _ hplace).mark with ⟨c, hc, hmark⟩ | ⟨c, hc, hmark⟩
  · rw [hletter] at hc
    cases hc
    exact hmark (by decide)
  · cases hc
    exact hmark (by decide)

end Graph

/-! ## 3. An object that is lost -/

namespace Text

open MapQuery.Text.Normal

/-- The line below. -/
def lineBelow : Char := Char.ofNat 0x331

/-- A small `h` with a line below. -/
def smallWithLine : Char := Char.ofNat 0x1E96

/-- It is joined with a small `h`, and not with a capital one. -/
theorem compositions_lineBelow : (0x68, 0x331, 0x1E96) ∈ compositionList ∧
    (compositionList.all fun e => !(e.1 == 0x48 && e.2.1 == 0x331)) = true ∧
    markClass lineBelow ≠ 0 := by
  decide +kernel

theorem composePair_small : composePair 'h' lineBelow = some smallWithLine :=
  composePair_of_mem compositions_lineBelow.1

theorem composePair_capital : composePair 'H' lineBelow = none := by
  cases hz : composePair 'H' lineBelow with
  | none => rfl
  | some z =>
    rcases composePair_cases hz with ⟨n, hjamo, -⟩ | ⟨z, hz, -⟩
    · cases hjamo
    · cases List.all_eq_true.mp compositions_lineBelow.2.1 _ hz

/-- The line below is joined with a letter of ASCII if there is a composite. -/
theorem composed_lineBelow {c : Char} (hc : c.toNat < 0xC0) : composed [c, lineBelow] =
    match composePair c lineBelow with
    | some z => [z]
    | none => [c, lineBelow] := by
  have hmark : markClass lineBelow ≠ 0 := compositions_lineBelow.2.2
  have hline : decompose lineBelow = [lineBelow] := by
    refine decompose_of_mem_decompose (c := smallWithLine) ?_
    rw [decompose_composePair composePair_small]
    exact List.mem_append_right _ List.mem_cons_self
  have hstarter : markClass c = 0 := markClass_of_lt (Nat.lt_trans hc (by decide))
  have hparts : decomposed [c, lineBelow] = [c, lineBelow] := by
    rw [decomposed_cons, decomposed_cons, decompose_of_lt hc, hline]
    rfl
  unfold composed
  rw [hparts, reordered_cons hstarter, recomposed_starter hstarter]
  show joinFrom c [] [lineBelow] = _
  rw [joinFrom]
  cases composePair c lineBelow with
  | some z => rfl
  | none => simp [blocked, hmark, joinFrom]

end Text

/-- **An object that is lost**: its name is an `H` with a line below, and an `h` with a line below is
    one character. -/
theorem Graph.lost_without_case :
    let p : Primitive := { id := 1, tags := ⟨[("name", "H\u0331")]⟩, shape := .node none none }
    let g : Graph := ⟨#[p]⟩
    ∃ t u, TextTest.build "H" { caseSensitive := true } = .ok t ∧ TextTest.build "H" {} = .ok u ∧
      g.holds none (.text t) 0 = .ok true ∧ g.holds none (.text u) 0 = .ok false := by
  intro p g
  have hget : g.get? 0 = some p := rfl
  have hname : "H\u0331".toList = ['H', Text.lineBelow] := by decide
  have hnormal : Text.fold "H\u0331" true = String.ofList ['H', Text.lineBelow] := by
    unfold Text.fold Text.normalize
    rw [if_pos rfl, hname, Text.composed_lineBelow (by decide), Text.composePair_capital]
  have hfolded : Text.fold "H\u0331" false = String.ofList [Text.smallWithLine] := by
    have hfold : Text.Case.foldText ['H', Text.lineBelow] = ['h', Text.lineBelow] := by
      decide +kernel
    unfold Text.fold
    rw [if_neg Bool.false_ne_true, hname, hfold, Text.composed_lineBelow (by decide),
      Text.composePair_small]
  refine ⟨_, _, TextTest.build_eq_plain "H" true, TextTest.build_eq_plain "H" false, ?_, ?_⟩
  · rw [holds_of_get? hget, holdsAt]
    refine congrArg Except.ok ((TextTest.holds_tagged rfl "H" true).mpr
      ⟨("name", "H\u0331"), List.mem_singleton_self _, .inr ?_⟩)
    unfold Text.contains
    rw [hnormal]
    decide +kernel
  · rw [holds_of_get? hget, holdsAt]
    refine congrArg Except.ok (Bool.eq_false_iff.mpr fun hfound => ?_)
    have hentries : p.tags.entries = [("name", "H\u0331")] := rfl
    obtain ⟨e, he, hcontains⟩ := (TextTest.holds_tagged rfl "H" false).mp hfound
    rw [hentries] at he
    obtain rfl := List.mem_singleton.mp he
    unfold Text.contains at hcontains
    rw [hfolded] at hcontains
    revert hcontains
    decide +kernel

end MapQuery
