import MapQuery.Proofs.Command.Ending
import MapQuery.Proofs.Command.Reloaded
import MapQuery.Proofs.Files.Path
import MapQuery.Proofs.Query.Written

/-!
# Printed references select what they name

A search can print the references of what it finds, one on a line. Each of them is read again as the
key of its object. So a second search of the same map, with these lines selected, finds for the
query `selected` the same objects, and prints the same lines.

* `Number.readInteger_intDigits` -- an integer is read back;
* `Key.ofReference_reference` -- a reference is read as the key that it was printed for;
* `keys_selected` -- of what is selected everything is found, in the order of its keys;
* `again`, `request_again` -- the arguments of the second search, and what they ask for;
* `ends_again`, `references_select` -- the second search, and both.
-/

namespace MapQuery

open Text

/-! ## 1. References -/

namespace Number

/-- The digits of a script are written as themselves if they are those of ASCII. -/
theorem digitValue_of_isAsciiDigit {c : Char} (h : isAsciiDigit c = true) :
    ∃ d, digitValue c = some d ∧ Char.ofNat ('0'.toNat + d) = c := by
  have hall : ∀ n < 10, digitValue (Char.ofNat (48 + n)) = some n := by decide +kernel
  simp only [isAsciiDigit, Bool.and_eq_true, decide_eq_true_eq, Char.le_def,
    UInt32.le_iff_toNat_le] at h
  have hlo : 48 ≤ c.toNat := h.1
  have hhi : c.toNat ≤ 57 := h.2
  have hc : Char.ofNat (48 + (c.toNat - 48)) = c := by
    rw [Nat.add_sub_cancel' hlo, Char.ofNat_toNat]
  have hvalue := hall (c.toNat - 48) (by omega)
  rw [hc] at hvalue
  exact ⟨_, hvalue, hc⟩

/-- **An integer as it is written is in plain form.** -/
theorem plainNumber_intDigits (n : Int) : plainNumber (intDigits n) = intDigits n := by
  have hcut : ∀ s : List Char, (∀ c ∈ s, isBlank c = false) →
      s.dropWhile isNumberBlank = s := by
    intro s hs
    cases s with
    | nil => rfl
    | cons c r =>
      refine List.dropWhile_cons_of_neg ?_
      unfold isNumberBlank
      simp [hs c List.mem_cons_self]
  have hblank : ∀ c ∈ intDigits n, isBlank c = false := fun _ => Range.isBlank_intDigits
  unfold plainNumber
  simp only
  rw [hcut _ hblank, hcut _ fun c hc => hblank c (List.mem_reverse.mp hc), List.reverse_reverse]
  refine (List.map_congr_left fun c hc => ?_).trans (List.map_id' _)
  rcases sign_or_digit_of_mem hc with rfl | hc
  · have hminus : digitValue '-' = none := by decide +kernel
    rw [hminus]
  · obtain ⟨d, hd, hchar⟩ := digitValue_of_isAsciiDigit hc
    rw [hd]
    exact hchar

/-- Nothing is dropped where there is no low line. -/
theorem dropJoiners_digits {s : List Char} (h : ∀ c ∈ s, isAsciiDigit c = true) :
    dropJoiners s = some s := by
  have hgo : ∀ (s : List Char) (b : Bool), (∀ c ∈ s, isAsciiDigit c = true) →
      dropJoiners.go b s = some s := by
    intro s
    induction s with
    | nil => exact fun _ _ => rfl
    | cons c r ih =>
      intro b hs
      obtain ⟨hc, hr⟩ := List.forall_mem_cons.mp hs
      unfold dropJoiners.go
      split
      · next heq => cases heq
      · next heq =>
        cases heq
        cases hc
      · next heq =>
        cases heq
        cases hc
      · next heq =>
        cases heq
        rw [ih _ hr]
        rfl
  exact hgo s false h

/-- **An integer is read back.** -/
theorem readInteger_intDigits {n : Int} (h : Fits n) :
    readInteger (String.ofList (intDigits n)) = .ok n := by
  have hall : ∀ c ∈ natDigits n.natAbs, isAsciiDigit c = true := fun _ => isAsciiDigit_of_mem
  have hsign := takeSign_intDigits n []
  rw [List.append_nil, List.append_nil] at hsign
  unfold readInteger
  rw [String.toList_ofList, plainNumber_intDigits, hsign]
  simp only
  split
  · next heq =>
    rw [heq] at hall
    exact absurd (hall '_' List.mem_cons_self) (by decide)
  · rw [dropJoiners_digits hall]
    simp only [all_isAsciiDigit, Bool.and_true, List.isEmpty_eq_false_iff.mpr (natDigits_ne_nil _),
      Bool.not_false, if_true]
    exact ofDigits_natDigits h

end Number

namespace Key

theorem toList_reference (k : Key) :
    k.reference.toList = k.kind.name.toList ++ '/' :: intDigits k.id := by
  unfold reference
  rw [String.toList_append, String.toList_append, Json.toList_toString_int, List.append_assoc]
  rfl

/-- **A reference is read as the key that it was printed for.** -/
theorem ofReference_reference {k : Key} (h : Fits k.id) : ofReference k.reference = some k := by
  have hkind : ∀ kind : Kind, ∀ c ∈ kind.name.toList, (c != '/') = true := by
    intro kind
    exact List.all_eq_true.mp (by cases kind <;> rfl)
  have hhalves : halves (k.kind.name.toList ++ '/' :: intDigits k.id) =
      (k.kind.name.toList, intDigits k.id) := by
    unfold halves
    rw [List.takeWhile_append_of_pos (hkind k.kind), List.dropWhile_append_of_pos (hkind k.kind)]
    simp
  unfold ofReference
  rw [toList_reference, hhalves]
  simp only
  rw [String.ofList_toList, (Kind.ofName_eq_some_iff _ k.kind).mpr rfl,
    Number.readInteger_intDigits h]

theorem reference_injective {k k' : Key} (h : Fits k.id) (h' : Fits k'.id)
    (heq : k.reference = k'.reference) : k = k' := by
  have hread := ofReference_reference h
  rw [heq, ofReference_reference h'] at hread
  exact (Option.some.inj hread).symm

/-- A reference stands on one line. -/
theorem lineEnd_notMem_reference (k : Key) : '\n' ∉ k.reference.toList := by
  have hkind : ∀ kind : Kind, '\n' ∉ kind.name.toList := by
    intro kind
    cases kind <;> decide
  have hdigits : '\n' ∉ intDigits k.id := by
    intro h
    have hblank := Range.isBlank_intDigits h
    exact absurd hblank (by decide)
  rw [toList_reference]
  simp [hkind, hdigits]

/-- Keys in order, by the name of the kind and then by number. -/
def Before (a b : Key) : Prop := a.kind.name < b.kind.name ∨ a.kind = b.kind ∧ a.id < b.id

theorem before_of_le {a b : Key} (h : a.le b = true) (hne : a ≠ b) : a.Before b := by
  obtain ⟨kind, id⟩ := a
  obtain ⟨kind', id'⟩ := b
  have hname : ∀ {k k' : Kind}, k.rank < k'.rank → k.name < k'.name := by
    intro k k'
    cases k <;> cases k' <;> decide
  unfold le at h
  by_cases heq : kind.rank = kind'.rank
  · obtain rfl := Kind.rank_injective heq
    rw [if_pos rfl, decide_eq_true_eq] at h
    have hid : id ≠ id' := fun e => hne (e ▸ rfl)
    exact .inr ⟨rfl, Int.lt_iff_le_and_ne.mpr ⟨h, hid⟩⟩
  · rw [if_neg heq, decide_eq_true_eq] at h
    exact .inl (hname h)

end Key

namespace Command.Search

open Document (Content Element Pictures)

/-! ## 2. What is found -/

section Found

variable {c : Content} {es : List Element} {found : List Primitive}

/-- **What is found stands in the order of its keys**, and no key twice. -/
theorem sorted_of_results {p : Predicate} {limit : Option Nat}
    (h : results c p limit = .ok found) :
    (found.map Primitive.key).Pairwise fun a b => a.le b = true := by
  unfold results at h
  obtain ⟨passing, -, h⟩ := bind_eq_ok.mp h
  have hall : (((c.graph.resolve passing).mergeSort fun a b => a.key.le b.key).map
      Primitive.key).Pairwise fun a b => a.le b = true := by
    rw [List.map_mergeSort (s := Key.le) fun _ _ _ _ => rfl]
    exact List.pairwise_mergeSort Key.le_trans Key.le_total _
  cases limit with
  | none =>
    cases h
    exact hall
  | some n =>
    cases h
    exact hall.sublist ((List.take_sublist n _).map Primitive.key)

/-- The key of an object of a map names it there. -/
theorem isSome_get?_of_excerpt (hc : Pictures c es) (hfound : Excerpt c found) :
    ∀ p ∈ found, (c.dataset.get? p.key).isSome = true := by
  intro p hp
  obtain ⟨h, -, hget⟩ := hfound.mem p hp
  have hkey := hc.get?_eq_some_iff.mpr (Pictures.keyAt_of_get? hget)
  rw [hkey]
  rfl

/-- An object is selected just if its key is. -/
theorem holds_selected {g : Graph} {h : Handle} {p : Primitive} (hget : g.get? h = some p)
    (ks : List Key) : g.holds (some ks) (.status .selected) h = .ok (ks.contains p.key) := by
  rw [Graph.holds_of_get? hget, Graph.holdsAt]
  rfl

/-- **Of what is selected everything is found**, in the order of its keys. -/
theorem keys_selected (hc : Pictures c es) (hfound : Excerpt c found)
    (hsorted : (found.map Primitive.key).Pairwise fun a b => a.le b = true)
    (view : Option Bounds) : ∃ again, results
      { c with dataset := { c.dataset with view := view, selected := found.map Primitive.key } }
        (.status .selected) none = .ok again ∧
      again.map Primitive.key = found.map Primitive.key := by
  have hall : ∀ h ∈ c.dataset.handles, ∃ b,
      c.graph.holds (some (found.map Primitive.key)) (.status .selected) h = .ok b := by
    intro h hh
    obtain ⟨p, hp⟩ := hc.mem_handles_iff.mp hh
    exact ⟨_, holds_selected hp _⟩
  have hmem : ∀ k, k ∈ (c.dataset.handles.filter (c.graph.passes (some (found.map Primitive.key))
      (.status .selected))).filterMap c.graph.keyAt ↔ k ∈ found.map Primitive.key := by
    intro k
    simp only [List.mem_filterMap, List.mem_filter, Graph.passes_iff]
    constructor
    · intro hk
      obtain ⟨h, ⟨hh, hpass⟩, hkey⟩ := hk
      obtain ⟨p, hp⟩ := hc.mem_handles_iff.mp hh
      rw [holds_selected hp, Except.ok.injEq] at hpass
      obtain rfl : p.key = k := Option.some.inj ((Pictures.keyAt_of_get? hp).symm.trans hkey)
      exact List.contains_iff_mem.mp hpass
    · intro hk
      obtain ⟨p, hp, rfl⟩ := List.mem_map.mp hk
      obtain ⟨h, hh, hget⟩ := hfound.mem p hp
      have hpass : (found.map Primitive.key).contains p.key = true := List.contains_iff_mem.mpr hk
      exact ⟨h, ⟨hh, by rw [holds_selected hget, hpass]⟩, Pictures.keyAt_of_get? hget⟩
  have hperm := (List.perm_ext_iff_of_nodup (hc.nodup_passing _ _) hfound.nodup).mpr hmem
  refine ⟨_, results_eq none hall, ?_⟩
  show (Graph.found _ _ _ _).map Primitive.key = _
  rw [Graph.map_key_found]
  exact (Key.mergeSort_eq hperm).trans (List.mergeSort_of_pairwise hsorted)

/-- **Of everything the objects with the first keys are found**, as many as there may be. -/
theorem keys_everything (hc : Pictures c es) (view : Option Bounds) (selected : List Key)
    (limit : Nat) : ∃ found, results
      { c with dataset := { c.dataset with view := view, selected := selected } } .always
        (some limit) = .ok found ∧
      found.map Primitive.key =
        ((c.dataset.entries.map Prod.fst).mergeSort Key.le).take limit := by
  have hall : ∀ h ∈ c.dataset.handles, c.graph.holds (some selected) .always h = .ok true := by
    intro h hh
    obtain ⟨p, hp⟩ := hc.mem_handles_iff.mp hh
    rw [Graph.holds_of_get? hp, Graph.holdsAt]
  have hpass : c.dataset.handles.filter (c.graph.passes (some selected) .always) =
      c.dataset.handles :=
    List.filter_eq_self.mpr fun h hh => Graph.passes_iff.mpr (hall h hh)
  have hkeys : (c.graph.found (some selected) .always c.dataset.handles).map Primitive.key =
      (c.dataset.entries.map Prod.fst).mergeSort Key.le := by
    unfold Graph.found
    rw [List.map_mergeSort (s := Key.le) fun _ _ _ _ => rfl, hpass, map_key_resolve hc, ← hc.keys]
  refine ⟨_, results_eq (some limit) fun h hh => ⟨true, hall h hh⟩, ?_⟩
  rw [List.map_take]
  exact congrArg (List.take limit) hkeys

end Found

/-! ## 3. The arguments of the second search -/

/-- The options that say in which map references are selected. -/
def givenAgain (data : Option String) (refs : List String) : List (Given Choice) :=
  (data.toList.map fun text => ⟨.data, text⟩) ++
    (⟨.format, "ids"⟩ :: refs.map fun ref => ⟨.select, ref⟩)

/-- The arguments that select references, in the same map, and search for what is selected. -/
def again (data : Option String) (refs : List String) : List String :=
  (data.toList.flatMap fun text => ["--data", text]) ++
    ("--format" :: "ids" :: ((refs.flatMap fun ref => ["--select", ref]) ++ ["selected"]))

/-- The value of an option stands behind its name. -/
theorem read_valued {ι : Type} {g : Grammar ι} {name : String} {o : ι}
    (hname : name ≠ "--") (hoption : isOption name.toList = true)
    (hread : g.readOption name.toList = .ok { waiting := some (o, name) })
    (value : String) (rest : List String) :
    g.read (name :: value :: rest) = (g.read rest).map (Grammar.withGiven [⟨o, value⟩]) := by
  rw [Grammar.read, if_neg hname, if_pos hoption, hread]
  rfl

theorem read_again (data : Option String) (refs : List String) :
    grammar.read (again data refs) = .ok ⟨givenAgain data refs, ["selected"]⟩ := by
  have hselects : grammar.read ((refs.flatMap fun ref => ["--select", ref]) ++ ["selected"]) =
      .ok ⟨refs.map fun ref => ⟨.select, ref⟩, ["selected"]⟩ := by
    induction refs with
    | nil => rfl
    | cons ref rest ih =>
      rw [List.flatMap_cons, List.append_assoc, List.cons_append, List.cons_append,
        List.nil_append, read_valued (by decide) rfl rfl, ih]
      rfl
  have hformat : grammar.read ("--format" :: "ids" ::
      ((refs.flatMap fun ref => ["--select", ref]) ++ ["selected"])) =
      .ok ⟨⟨.format, "ids"⟩ :: refs.map fun ref => ⟨.select, ref⟩, ["selected"]⟩ := by
    rw [read_valued (by decide) rfl rfl, hselects]
    rfl
  unfold again givenAgain
  cases data with
  | none => exact hformat
  | some text =>
    rw [Option.toList_some, List.flatMap_singleton, List.cons_append, List.cons_append,
      List.nil_append, read_valued (by decide) rfl rfl, hformat]
    rfl

/-- What the options say of something that no reference says anything of. -/
theorem last_givenAgain {α : Type} {data : Option String} {refs args : List String}
    {f : Given Choice → Option α} (hselect : ∀ ref, f ⟨.select, ref⟩ = none) :
    (Reading.mk (givenAgain data refs) args).last f =
      (f ⟨.format, "ids"⟩).or (data.bind fun text => f ⟨.data, text⟩) := by
  have hnone : (refs.map fun ref => (⟨.select, ref⟩ : Given Choice)).filterMap f = [] := by
    rw [List.filterMap_map]
    exact List.filterMap_eq_nil_iff.mpr fun ref _ => hselect ref
  unfold Reading.last givenAgain
  simp only
  rw [List.filterMap_append, List.filterMap_cons, hnone]
  cases data with
  | none => cases f ⟨.format, "ids"⟩ <;> rfl
  | some text =>
    simp only [Option.toList_some, List.map_cons, List.map_nil, List.filterMap_cons,
      List.filterMap_nil, Option.bind_some]
    cases f ⟨.format, "ids"⟩ <;> cases f ⟨.data, text⟩ <;> rfl

theorem not_has_givenAgain {data : Option String} {refs args : List String} {f : Choice → Bool}
    (hdata : f .data = false) (hformat : f .format = false) (hselect : f .select = false) :
    (Reading.mk (givenAgain data refs) args).has f = false := by
  unfold Reading.has givenAgain
  simp [hdata, hformat, hselect]

/-- **They ask for what is selected**, if there is a file where the map was. -/
theorem request_again {data : Option String} {refs : List String} {there : Stored}
    (hdata : ∀ text ∈ data, dataProblem text there = none) :
    request ⟨givenAgain data refs, ["selected"]⟩ there =
      .ok { query := "selected", data := data.map fun (text : String) => Path.ofText text,
            selected := refs, format := .ids } := by
  have hproblem : (givenAgain data refs).findSome?
      (fun g => problem ⟨givenAgain data refs, ["selected"]⟩ there g.option) = none := by
    rw [List.findSome?_eq_none_iff]
    intro g hg
    unfold problem
    unfold givenAgain at hg
    rcases List.mem_append.mp hg with hg | hg
    · obtain ⟨text, htext, rfl⟩ := List.mem_map.mp hg
      have hlast : (Reading.mk (givenAgain data refs) ["selected"]).last (valueOf .data) =
          some text := (last_givenAgain fun _ => rfl).trans (by
        rw [Option.mem_toList.mp htext]
        rfl)
      rw [hlast]
      show (dataProblem text there).map _ = none
      rw [hdata text (Option.mem_toList.mp htext)]
      rfl
    · rcases List.mem_cons.mp hg with rfl | hg
      · rw [last_givenAgain fun _ => rfl]
        rfl
      · obtain ⟨ref, -, rfl⟩ := List.mem_map.mp hg
        cases Reading.last _ _ <;> rfl
  have hselected : (Reading.mk (givenAgain data refs) ["selected"]).all (valueOf .select) =
      refs := by
    unfold Reading.all givenAgain
    simp [valueOf, List.filterMap_append, List.filterMap_map, Function.comp_def]
  have hexplain : (Reading.mk (givenAgain data refs) ["selected"]).has (· == .explain) = false :=
    not_has_givenAgain rfl rfl rfl
  unfold request
  simp only [hproblem, hselected, hexplain]
  rw [last_givenAgain fun _ => rfl, last_givenAgain fun _ => rfl, last_givenAgain fun _ => rfl,
    last_givenAgain fun _ => rfl, last_givenAgain fun _ => rfl, last_givenAgain fun _ => rfl]
  cases data <;> rfl

/-- What a request has of its arguments, and that there is a file if they name a map. -/
theorem of_request {args : Reading Choice} {there : Stored} {r : Request}
    (h : request args there = .ok r) :
    r.data = ((args.last (valueOf .data)).map fun (text : String) => Path.ofText text) ∧
      r.format = ((args.last (valueOf .format)).bind fun v => formats.lookup v).getD .table ∧
      ∀ text ∈ args.last (valueOf .data), dataProblem text there = none := by
  unfold request at h
  split at h
  · cases h
  · next hproblem =>
    cases h
    refine ⟨rfl, rfl, fun text htext => ?_⟩
    obtain ⟨g, hg, hvalue⟩ := List.mem_filterMap.mp (List.mem_of_getLast? htext)
    have hdata : g.option = .data := by
      unfold valueOf at hvalue
      split at hvalue
      · assumption
      · cases hvalue
    have hnone := List.findSome?_eq_none_iff.mp hproblem g hg
    rw [hdata, problem, Option.mem_def.mp htext] at hnone
    exact Option.map_eq_none_iff.mp hnone

/-! ## 4. Both searches -/

/-- The references of keys that are in a data set select these keys, and no warning is written. -/
theorem selectedKeys_references {d : DataSet} {ks : List Key}
    (h : ∀ k ∈ ks, Fits k.id ∧ (d.get? k).isSome = true) :
    selectedKeys d (ks.map Key.reference) = some ks ∧
      absentText d (ks.map Key.reference) = "" := by
  induction ks with
  | nil => exact ⟨rfl, rfl⟩
  | cons k rest ih =>
    obtain ⟨hk, hrest⟩ := List.forall_mem_cons.mp h
    obtain ⟨hkeys, htext⟩ := ih hrest
    have hread := Key.ofReference_reference hk.1
    rw [List.map_cons, selectedKeys, absentText, hread, hkeys, htext]
    simp [hk.2]

/-- The references of what was found, which are printed one on a line. -/
def linesOf (found : List Primitive) : List String := (found.map Primitive.key).map Key.reference

theorem idsText_eq_join (found : List Primitive) :
    idsText found = String.join ((linesOf found).map fun line => line ++ "\n") := by
  unfold idsText linesOf
  rw [List.map_map, List.map_map]
  rfl

/-- Objects with different keys are printed on different lines. -/
theorem nodup_linesOf {found : List Primitive} (hfits : ∀ p ∈ found, Fits p.id)
    (hnodup : (found.map Primitive.key).Nodup) : (linesOf found).Nodup := by
  refine List.Nodup.map_on (fun k hk k' hk' => ?_) hnodup
  obtain ⟨p, hp, rfl⟩ := List.mem_map.mp hk
  obtain ⟨p', hp', rfl⟩ := List.mem_map.mp hk'
  exact Key.reference_injective (hfits p hp) (hfits p' hp')

theorem compile_selected (setting : Query.Setting) :
    (Query.compile setting "selected").outcome = .ok (.status .selected) :=
  Query.compile_written setting (.status .selected) (.inr trivial)

/-- The search for what is selected, where that was found before in the same map. -/
theorem ends_again {c : Content} {es : List Element} {found : List Primitive} {t : Tree}
    {data : Option String} {file : Path} (w : World) (mode : Mode) (settings : Settings)
    (hdata : ∀ text ∈ data, dataProblem text (seen t text) = none)
    (hfile : settings.dataFile (data.map fun (text : String) => Path.ofText text) = some file)
    (hc : (Document.ofStored file (t.look file)).1 = .ok c) (hpict : Pictures c es)
    (hfound : Excerpt c found) (hfits : ∀ p ∈ found, Fits p.id)
    (hsorted : (found.map Primitive.key).Pairwise fun a b => a.le b = true) (hne : found ≠ [])
    (hnote : mode.verbose = true → CanNote (loadedMessage file c)) :
    Ends (runSearch w mode settings (again data (linesOf found))) { tree := t } ()
      ⟨⟨loadedNote mode file c ++ idsText found, ""⟩, t⟩ := by
  have hthere : ∀ text ∈ data, dataProblem text
      (thereFor t ⟨givenAgain data (linesOf found), ["selected"]⟩) = none := by
    intro text htext
    have hlast : (Reading.mk (givenAgain data (linesOf found)) ["selected"]).last
        (valueOf .data) = some text := (last_givenAgain fun _ => rfl).trans (by
      rw [Option.mem_def.mp htext]
      rfl)
    unfold thereFor
    rw [hlast]
    exact hdata text htext
  have hkeys : ∀ k ∈ found.map Primitive.key,
      Fits k.id ∧ (c.dataset.get? k).isSome = true := by
    intro k hk
    obtain ⟨p, hp, rfl⟩ := List.mem_map.mp hk
    exact ⟨hfits p hp, isSome_get?_of_excerpt hpict hfound p hp⟩
  obtain ⟨hselected, habsent⟩ := selectedKeys_references hkeys
  obtain ⟨again, hresults, hagain⟩ := keys_selected hpict hfound hsorted none
  have hids : idsText again = idsText found := by
    rw [idsText_eq_join, idsText_eq_join, linesOf, linesOf, hagain]
  have hsome : again ≠ [] := by
    intro hnil
    rw [hnil] at hagain
    exact hne (List.map_eq_nil_iff.mp hagain.symm)
  have hwritten : ∀ r : Request, r.explain = false →
      loadedNote mode file c ++ compiledNote r (.status .selected) ++ foundText mode r again =
        loadedNote mode file c ++ idsText found := by
    intro r hr
    unfold compiledNote foundText
    rw [hr, if_neg Bool.false_ne_true, String.append_empty, hids,
      List.isEmpty_eq_false_iff.mpr hsome, if_neg Bool.false_ne_true]
  refine (ends_runSearch (read_again data (linesOf found))
    (not_has_givenAgain rfl rfl rfl)).mpr ⟨_, request_again hthere, ends_run.mpr ⟨file, hfile,
      (ends_runIn rfl).mpr ⟨c, .status .selected, again, hc,
        ⟨none, found.map Primitive.key, rfl, hselected, compile_selected _, hresults⟩, hnote, ?_⟩⟩⟩
  rw [hwritten _ rfl]
  unfold linesOf
  rw [habsent, State.warned_empty]
  unfold State.wrote
  rw [String.empty_append]

/-- The note on a map can be written if the map is named by a text, or if the path of the default map
    is clean. -/
theorem canNote_loaded {data : Option String} {settings : Settings} {file : Path} {c : Content}
    (hfile : settings.dataFile (data.map fun (text : String) => Path.ofText text) = some file)
    (hdefault : ∀ p ∈ settings.defaultFile, p.text.Clean) : CanNote (loadedMessage file c) := by
  have hclean : file.text.Clean := by
    rcases Option.or_eq_some_iff.mp hfile with hdata | ⟨-, hold⟩
    · obtain ⟨text, -, rfl⟩ := Option.map_eq_some_iff.mp hdata
      exact Path.clean_text_ofText text
    · exact hdefault file hold
  exact canNote_of_clean (Rough.clean_append.mpr ⟨Rough.clean_ofString _, hclean⟩)

/-- **Printed references select what they name.** A reference is read as the key that it was printed
    for, whatever its kind and its number are. And if a search that prints references comes to its
    end, then it has written, behind its notes, the references of what it found in the map of a
    file, one on a line: each once, and in the order of the names of the kinds and of the numbers.
    If it found anything, then searching again in the same files, with these lines selected, for
    what is selected, comes to its end with the same lines, and it writes nothing beside them but
    the note on the map if that is asked for. A default map has to have a clean path then. -/
theorem references_select :
    (∀ k : Key, Fits k.id → Key.ofReference k.reference = some k) ∧
    ∀ (w : World) (mode : Mode) (settings : Settings) (args : List String)
      (reading : Reading Choice) (t : Tree) (s : State), grammar.read args = .ok reading →
      reading.has (· == .help) = false → reading.last (valueOf .format) = some "ids" →
      Ends (runSearch w mode settings args) { tree := t } () s →
      ∃ r file c p found,
        request reading (thereFor t reading) = .ok r ∧
        settings.dataFile r.data = some file ∧
        (Document.ofStored file (t.look file)).1 = .ok c ∧
        Finds (settings.textOptions r.caseSensitive r.regex) w.now r c p found ∧
        s = ⟨⟨loadedNote mode file c ++ compiledNote r p ++ foundText mode r found,
          absentText c.dataset r.selected⟩, t⟩ ∧
        idsText found = String.join ((linesOf found).map fun line => line ++ "\n") ∧
        (∀ line ∈ linesOf found, '\n' ∉ line.toList) ∧
        (linesOf found).Nodup ∧ (found.map Primitive.key).Pairwise Key.Before ∧
        (found ≠ [] → foundText mode r found = idsText found ∧
          ∀ (w' : World) (mode' : Mode) (settings' : Settings),
            settings'.defaultFile = settings.defaultFile →
            (mode'.verbose = true → ∀ p ∈ settings.defaultFile, p.text.Clean) →
            Ends (runSearch w' mode' settings'
                (again (reading.last (valueOf .data)) (linesOf found))) { tree := t } ()
              ⟨⟨loadedNote mode' file c ++ idsText found, ""⟩, t⟩) := by
  refine ⟨fun k => Key.ofReference_reference, ?_⟩
  intro w mode settings args reading t s hread hhelp hformat hends
  obtain ⟨r, hr, hrun⟩ := (ends_runSearch hread hhelp).mp hends
  obtain ⟨hdata, hids, hproblem⟩ := of_request hr
  have hformat : r.format = .ids := by
    rw [hids, hformat]
    rfl
  obtain ⟨file, hfile, hrunIn⟩ := ends_run.mp hrun
  obtain ⟨c, p, found, hc, hfinds, -, hs⟩ := (ends_runIn hformat).mp hrunIn
  obtain ⟨j, hbounded, hload⟩ := Document.load_of_ofStored hc
  obtain ⟨-, -, es, -, -, -, -, -, hpict, -⟩ := Document.pictures_of_load hload
  obtain ⟨view, selected, hview, hselected, hp, hresults⟩ := hfinds
  have hfound : Excerpt c found := excerpt_of_results hpict hresults
  have hsorted := sorted_of_results hresults
  have hfits : ∀ p ∈ found, Fits p.id := by
    intro p hp
    obtain ⟨h, -, hget⟩ := hfound.mem p hp
    exact (Document.sound_of_load hbounded hload hget).id
  have hfile' : ∀ settings' : Settings, settings'.defaultFile = settings.defaultFile →
      settings'.dataFile ((reading.last (valueOf .data)).map fun (text : String) =>
        Path.ofText text) = some file := by
    intro settings' hdefault
    unfold Settings.dataFile
    rw [hdefault, ← hdata]
    exact hfile
  have hseen : ∀ text ∈ reading.last (valueOf .data), dataProblem text (seen t text) = none := by
    intro text htext
    have hnone := hproblem text htext
    unfold thereFor at hnone
    rw [Option.mem_def.mp htext] at hnone
    exact hnone
  refine ⟨r, file, c, p, found, hr, hfile, hc, ⟨view, selected, hview, hselected, hp, hresults⟩, ?_,
    idsText_eq_join found, ?_, ?_, ?_, fun hne =>
      ⟨?_, fun w' mode' settings' hdefault hclean => ?_⟩⟩
  · rw [hs]
    unfold State.warned State.wrote
    simp only [String.empty_append]
  · intro line hline
    obtain ⟨k, -, rfl⟩ := List.mem_map.mp hline
    exact Key.lineEnd_notMem_reference k
  · exact nodup_linesOf hfits hfound.nodup
  · exact (hsorted.and hfound.nodup).imp fun hk => Key.before_of_le hk.1 hk.2
  · unfold foundText
    rw [List.isEmpty_eq_false_iff.mpr hne, if_neg Bool.false_ne_true]
  · exact ends_again w' mode' settings' hseen (hfile' settings' hdefault) hc hpict hfound hfits
      hsorted hne fun hverbose => canNote_loaded (hfile' settings' hdefault)
        (hdefault ▸ hclean hverbose)

/-- A way and a node with the same number below zero, and another node; the way is cut off by a
    limit. -/
theorem references_select_limited :
    let chars :=
      "\x7b\"elements\":[\x7b\"type\":\"way\",\"id\":-3,\"nodes\":[-3,7]\x7d]\x7d".toList
    let t : Tree := { files := [(["map.json"], chars.flatMap String.utf8EncodeChar)] }
    let w : World := { place := { folder := ⟨.root, []⟩, home := ⟨.root, []⟩ }, now := 0 }
    (∃ s, Ends (runSearch w {} {} ["--data", "map.json", "--format", "ids", "--limit", "2"])
      { tree := t } () s ∧ s.output.out = "node/-3\nnode/7\n") ∧
    Ends (runSearch w {} {} ["--data", "map.json", "--format", "ids", "--select", "node/-3",
        "--select", "node/7", "selected"]) { tree := t } ()
      ⟨⟨"node/-3\nnode/7\n", ""⟩, t⟩ := by
  intro chars t w
  let way : Json :=
    .obj [("type", .str "way"), ("id", .int (-3)), ("nodes", .arr [.int (-3), .int 7])]
  obtain ⟨c, hload, hkeys⟩ : ∃ c,
      (Document.load (.obj [("elements", .arr [way])])).outcome = .ok c ∧
      c.dataset.entries.map Prod.fst = [⟨.way, -3⟩, ⟨.node, -3⟩, ⟨.node, 7⟩] := ⟨_, rfl, rfl⟩
  have hchars : Json.readChars (unifyLineEnds chars) = .ok (.obj [("elements", .arr [way])]) := by
    simp only [chars, String.reduceToList]
    rfl
  have hc : (Document.ofStored (Path.ofText "map.json") (t.look (Path.ofText "map.json"))).1 =
      .ok c := Document.ofStored_of_chars _ hchars hload
  obtain ⟨-, -, es, -, -, -, -, -, hpict, -⟩ := Document.pictures_of_load hload
  obtain ⟨found, hfound, hfoundKeys⟩ := keys_everything hpict none [] 2
  have hsorted : ([⟨.way, -3⟩, ⟨.node, -3⟩, ⟨.node, 7⟩] : List Key).mergeSort Key.le =
      [⟨.node, -3⟩, ⟨.node, 7⟩, ⟨.way, -3⟩] :=
    (Key.mergeSort_eq (by decide)).trans (List.mergeSort_of_pairwise (by decide))
  rw [hkeys, hsorted] at hfoundKeys
  let reading : Reading Choice :=
    { given := [⟨.data, "map.json"⟩, ⟨.format, "ids"⟩, ⟨.limit, "2"⟩] }
  let r : Request :=
    { query := "", data := some (Path.ofText "map.json"), format := .ids, limit := some 2 }
  have hread : grammar.read ["--data", "map.json", "--format", "ids", "--limit", "2"] =
      .ok reading := rfl
  have hlimit : Number.readInteger "2" = .ok 2 := Number.readInteger_intDigits (n := 2) (by decide)
  have hr : request reading (thereFor t reading) = .ok r := by
    have hproblem : reading.given.findSome?
        (fun g => problem reading (thereFor t reading) g.option) = none := by
      have hfits : problem reading (thereFor t reading) .limit = none := by
        show (limitProblem "2").map (Misuse.badValue "'--limit' / '-l'") = none
        unfold limitProblem
        rw [hlimit]
        rfl
      exact List.findSome?_eq_none_iff.mpr (List.forall_mem_cons.mpr ⟨rfl, List.forall_mem_cons.mpr
        ⟨rfl, List.forall_mem_singleton.mpr hfits⟩⟩)
    have hlast : reading.last (valueOf .limit) = some "2" := rfl
    unfold request
    rw [hproblem, hlast, Option.bind_some, hlimit]
    rfl
  have hends : Ends (runSearch w {} {} ["--data", "map.json", "--format", "ids", "--limit", "2"])
      { tree := t } () _ :=
    (ends_runSearch hread rfl).mpr ⟨r, hr, ends_run.mpr ⟨Path.ofText "map.json", rfl,
      (ends_runIn rfl).mpr ⟨c, .always, found, hc, ⟨none, [], rfl, rfl, rfl, hfound⟩, nofun, rfl⟩⟩⟩
  obtain ⟨-, hselect⟩ := references_select
  obtain ⟨r', file, c', p, found', hr', hfile, hc', hfinds', hs, -, -, -, -, hagain⟩ :=
    hselect w {} {} _ _ t _ hread rfl rfl hends
  cases hr.symm.trans hr'
  cases hfile
  cases hc.symm.trans hc'
  obtain ⟨view, selected, hview, hselected, hp, hresults⟩ := hfinds'
  cases hview
  cases hselected
  cases hp
  cases hfound.symm.trans hresults
  have hlines : linesOf found = ["node/-3", "node/7"] := by
    unfold linesOf
    rw [hfoundKeys]
    rfl
  have hids : idsText found = "node/-3\nnode/7\n" := by
    rw [idsText_eq_join, hlines]
    rfl
  have hne : found ≠ [] := by
    intro hnil
    rw [hnil] at hfoundKeys
    cases hfoundKeys
  obtain ⟨htext, hagain⟩ := hagain hne
  refine ⟨⟨_, hends, ?_⟩, ?_⟩
  · rw [hs, htext, hids]
    rfl
  · have hsecond := hagain w {} {} rfl nofun
    rw [hlines, hids] at hsecond
    exact hsecond

end Command.Search

end MapQuery
