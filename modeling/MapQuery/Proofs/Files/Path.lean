import MapQuery.Files.Path
import MapQuery.Proofs.Fallible
import MapQuery.Proofs.Text.Rough
import Mathlib.Data.List.Basic

/-!
# Paths as texts, and where they lead

A path that a text can name is named by its own text. And a path leads to a place from the root
unless a name in it is one that no place can have, or it starts with a home that nobody has.

* `Path.Proper`, `proper_ofText` -- paths that a text can name;
* `ofText_text` -- such a path is named by its text;
* `resolve_eq_error_iff` -- when a path leads nowhere, and why;
* `dots_notMem_resolve` -- the place that a path leads to has no two dots in its names.
-/

namespace MapQuery.Path

/-! ## 1. Texts -/

/-- A path whose names can stand between slashes. -/
def Proper (p : Path) : Prop :=
  ∀ name ∈ p.names, isName name.points = true ∧ .char '/' ∉ name.points

theorem namesOf_slash (s : List CodePoint) : namesOf (.char '/' :: s) = namesOf s := by
  unfold namesOf
  rw [List.splitOn_eq_splitOnP, List.splitOnP_cons_eq_if_modifyHead, if_pos (by decide),
    ← List.splitOn_eq_splitOnP, List.filter_cons_of_neg (by decide)]

/-- **A text names a proper path.** -/
theorem proper_ofText (text : Rough) : (ofText text).Proper := by
  intro name hname
  obtain ⟨piece, hpiece, rfl⟩ := List.mem_map.mp hname
  obtain ⟨hmem, hkept⟩ := List.mem_filter.mp hpiece
  rw [Rough.points_ofPoints]
  exact ⟨hkept, fun hslash => (Rough.mem_of_mem_splitOn hmem hslash).2 rfl⟩

/-- Names that are joined by slashes are found between them. -/
theorem namesOf_joined {p : Path} (hp : p.Proper) :
    namesOf (Rough.join "/" p.names).points = p.names := by
  rw [Rough.points_join]
  by_cases hne : p.names = []
  · rw [hne]
    rfl
  · have hpieces : ([CodePoint.char '/'].intercalate (p.names.map Rough.points)).splitOn
        (.char '/') = p.names.map Rough.points := by
      refine List.splitOn_intercalate (CodePoint.char '/') ?_ (by simpa using hne)
      intro piece hpiece
      obtain ⟨name, hname, rfl⟩ := List.mem_map.mp hpiece
      exact (hp name hname).2
    unfold namesOf
    rw [show (("/" : String) : Rough).points = [CodePoint.char '/'] from rfl, hpieces,
      List.filter_eq_self.mpr]
    · rw [List.map_map]
      exact (List.map_congr_left fun _ _ => Rough.ofPoints_points _).trans (List.map_id _)
    · intro piece hpiece
      obtain ⟨name, hname, rfl⟩ := List.mem_map.mp hpiece
      exact (hp name hname).1

/-- Names that are joined by slashes do not start with one. -/
theorem head_joined {p : Path} (hp : p.Proper) :
    ∀ c ∈ (Rough.join "/" p.names).points.head?, c ≠ .char '/' := by
  rw [Rough.points_join]
  cases hnames : p.names with
  | nil => exact nofun
  | cons name rest =>
    obtain ⟨hkept, hslash⟩ := hp name (hnames ▸ List.mem_cons_self)
    obtain ⟨l, hl⟩ : ∃ l, (("/" : String) : Rough).points.intercalate
        ((name :: rest).map Rough.points) = name.points ++ l := by
      cases rest with
      | nil => exact ⟨[], by simp [List.intercalate]⟩
      | cons next more =>
        exact ⟨.char '/' :: [CodePoint.char '/'].intercalate ((next :: more).map Rough.points),
          by simp [List.intercalate]⟩
    cases hname : name.points with
    | nil =>
      rw [hname] at hkept
      cases hkept
    | cons c r =>
      rw [hl, hname]
      intro d hd
      cases hd
      intro h
      rw [hname, h] at hslash
      exact hslash List.mem_cons_self

/-- **A path that a text can name is named by its own text.** -/
theorem ofText_text {p : Path} (hp : p.Proper) : ofText p.text = p := by
  obtain ⟨start, names⟩ := p
  have hhead := head_joined hp
  have hnames := namesOf_joined hp
  simp only at hhead hnames
  have htake : (Rough.join "/" names).points.takeWhile (· == .char '/') = [] := by
    cases h : (Rough.join "/" names).points with
    | nil => rfl
    | cons c r =>
      rw [h] at hhead
      exact List.takeWhile_cons_of_neg (by simpa using hhead c rfl)
  cases start with
  | here =>
    cases names with
    | nil => decide
    | cons name rest =>
      unfold ofText text
      simp only [List.isEmpty_cons, Bool.and_false, Bool.false_eq_true, if_false, startText,
        Rough.points_append, Rough.points_ofString, String.reduceToList, List.map_nil,
        List.nil_append, htake, hnames]
      rfl
  | root =>
    unfold ofText text
    simp only [reduceCtorEq, decide_false, Bool.false_and, Bool.false_eq_true, if_false, startText,
      Rough.points_append, Rough.points_ofString, String.reduceToList, List.map_cons, List.map_nil,
      List.cons_append, List.nil_append]
    rw [namesOf_slash, hnames, List.takeWhile_cons_of_pos rfl, htake]
    rfl
  | twoSlashes =>
    unfold ofText text
    simp only [reduceCtorEq, decide_false, Bool.false_and, Bool.false_eq_true, if_false, startText,
      Rough.points_append, Rough.points_ofString, String.reduceToList, List.map_cons, List.map_nil,
      List.cons_append, List.nil_append]
    rw [namesOf_slash, namesOf_slash, hnames, List.takeWhile_cons_of_pos rfl,
      List.takeWhile_cons_of_pos rfl, htake]
    rfl

/-! ## 2. Names that the machine can be asked for -/

/-- All halves of a name stand for bytes. -/
def Bytewise (name : Rough) : Prop := ∀ h, .half h ∈ name.points → h.isByte = true

theorem bytewise_ofString (s : String) : Bytewise s :=
  fun _ hmem => absurd hmem (Rough.clean_iff_points.mp (Rough.clean_ofString s) _)

/-- **What is in a name of a path stands in the text that names the path.** -/
theorem mem_of_mem_ofText {text name : Rough} (h : name ∈ (ofText text).names) {c : CodePoint}
    (hc : c ∈ name.points) : c ∈ text.points := by
  obtain ⟨piece, hpiece, rfl⟩ := List.mem_map.mp h
  obtain ⟨hmem, -⟩ := List.mem_filter.mp hpiece
  rw [Rough.points_ofPoints] at hc
  exact (Rough.mem_of_mem_splitOn hmem hc).1

theorem bytewise_of_ofText {s : String} {name : Rough} (h : name ∈ (ofText s).names) :
    Bytewise name :=
  fun half hhalf => bytewise_ofString s half (mem_of_mem_ofText h hhalf)

/-- **A name whose halves are bytes is refused just for the character with number 0.** -/
theorem textFault?_of_bytewise {text : Rough} (h : Bytewise text) :
    textFault? text = if null ∈ text.points then some .nullCharacter else none := by
  have hpass : text.fault? Half.isByte = none :=
    Rough.fault?_eq_none_iff.mpr fun half hmem => h half (Rough.mem_halves_iff.mp hmem)
  unfold textFault?
  rw [hpass]
  simp only [List.contains_iff_mem]

/-- The text of a path holds what is in its names, and slashes. -/
theorem mem_text_iff {start : PathStart} {names : List Rough} (hne : names ≠ []) {c : CodePoint}
    (hc : c ≠ .char '/') :
    c ∈ (text ⟨start, names⟩).points ↔ ∃ name ∈ names, c ∈ name.points := by
  have hstart : c ∉ ((startText start : String) : Rough).points := by
    cases start with
    | here => exact List.not_mem_nil
    | root => simpa [startText] using hc
    | twoSlashes => simpa [startText] using hc
  have hbetween : c ∉ (("/" : String) : Rough).points := by simpa using hc
  unfold text
  rw [if_neg (by simp [hne]), Rough.points_append, List.mem_append, or_iff_right hstart,
    Rough.mem_join_iff hbetween]

/-- **A text without halves names a path of which that is so.** -/
theorem clean_text_ofText (s : String) : (ofText s).text.Clean := by
  cases hnames : (ofText s).names with
  | nil =>
    generalize ofText (s : Rough) = p at hnames ⊢
    obtain ⟨start, names⟩ := p
    cases hnames
    cases start with
    | here => rfl
    | root => rfl
    | twoSlashes => rfl
  | cons name rest =>
    refine Rough.clean_iff_points.mpr fun h hmem => ?_
    have hne : (ofText s).names ≠ [] := by
      rw [hnames]
      exact List.cons_ne_nil _ _
    obtain ⟨n, hn, hhalf⟩ := (mem_text_iff (c := .half h) hne nofun).mp hmem
    exact Rough.clean_iff_points.mp (Rough.clean_ofString s) h (mem_of_mem_ofText hn hhalf)

theorem bytewise_text {start : PathStart} {names : List Rough} (hne : names ≠ [])
    (h : ∀ name ∈ names, Bytewise name) : Bytewise (text ⟨start, names⟩) := by
  intro half hmem
  obtain ⟨name, hname, hhalf⟩ := (mem_text_iff (c := .half half) hne nofun).mp hmem
  exact h name hname half hhalf

/-- What holds of two dots and of the names that were passed holds of those that are passed after
    two dots more. -/
theorem forall_mem_above {P : Rough → Prop} (hdots : P "..") {start : PathStart}
    {passed : List Rough} (h : ∀ name ∈ passed, P name) : ∀ name ∈ above start passed, P name := by
  unfold above
  split
  · exact List.forall_mem_append.mpr ⟨h, List.forall_mem_singleton.mpr hdots⟩
  · exact fun name hname => h name (List.dropLast_subset _ hname)

/-- **Names whose halves are bytes are refused just for the character with number 0.** -/
theorem nameFault?_eq_some_iff {start : PathStart} {passed names : List Rough}
    (hpassed : ∀ name ∈ passed, Bytewise name ∧ null ∉ name.points)
    (hnames : ∀ name ∈ names, Bytewise name) {e : Fault} :
    nameFault? start passed names = some e ↔
      e = .nullCharacter ∧ ∃ name ∈ names, null ∈ name.points := by
  have hdots : Bytewise (".." : String) ∧ null ∉ ((".." : String) : Rough).points :=
    ⟨bytewise_ofString _, by decide⟩
  induction names generalizing passed with
  | nil => simp [nameFault?]
  | cons name rest ih =>
    rw [List.forall_mem_cons] at hnames
    obtain ⟨hname, hrest⟩ := hnames
    rw [List.exists_mem_cons_iff, nameFault?]
    split
    · next hup =>
      rw [hup, or_iff_right hdots.2]
      exact ih (forall_mem_above hdots hpassed) hrest
    · have hne : passed ++ [name] ≠ [] :=
        List.append_ne_nil_of_right_ne_nil _ (List.cons_ne_nil _ _)
      have hall : ∀ n ∈ passed ++ [name], Bytewise n :=
        List.forall_mem_append.mpr
          ⟨fun n hn => (hpassed n hn).1, List.forall_mem_singleton.mpr hname⟩
      have hnull : null ∈ (text ⟨start, passed ++ [name]⟩).points ↔ null ∈ name.points := by
        have hclean : ¬ ∃ n ∈ passed, null ∈ n.points := by
          rintro ⟨n, hn, hmem⟩
          exact (hpassed n hn).2 hmem
        rw [mem_text_iff hne (by decide)]
        simp only [List.mem_append, List.mem_singleton, or_and_right, exists_or, exists_eq_left,
          or_iff_right hclean]
      rw [textFault?_of_bytewise (bytewise_text hne hall)]
      simp only [hnull]
      by_cases hmem : null ∈ name.points
      · simp [hmem, eq_comm]
      · rw [if_neg hmem, or_iff_right hmem]
        exact ih (List.forall_mem_append.mpr
          ⟨hpassed, List.forall_mem_singleton.mpr ⟨hname, hmem⟩⟩) hrest

/-! ## 3. Places -/

theorem dots_notMem_follow {names folder : List Rough} (h : (".." : Rough) ∉ folder) :
    (".." : Rough) ∉ follow folder names := by
  induction names generalizing folder with
  | nil => exact h
  | cons name rest ih =>
    unfold follow
    split
    · exact ih fun hmem => h (List.dropLast_subset _ hmem)
    · next hname =>
      refine ih fun hmem => ?_
      rcases List.mem_append.mp hmem with hmem | hmem
      · exact h hmem
      · exact hname (List.mem_singleton.mp hmem).symm

/-- **A path leads to a place from the root, and no name on the way there is two dots**, if that is
    so of the folder one is in. -/
theorem dots_notMem_resolve {w : Place} (hw : (".." : Rough) ∉ w.folder.names) {p q : Path}
    (h : p.resolve w = .ok q) : q.start = .root ∧ (".." : Rough) ∉ q.names := by
  unfold resolve at h
  obtain ⟨expanded, -, h⟩ := bind_eq_ok.mp h
  dsimp only at h
  split at h
  · cases h
  · cases h
    unfold absolute
    split
    · exact ⟨rfl, dots_notMem_follow hw⟩
    · exact ⟨rfl, dots_notMem_follow List.not_mem_nil⟩

/-- A path that starts with the home of somebody who has none. -/
def NoHome (w : Place) (p : Path) : Prop :=
  p.start = .here ∧ ∃ name rest who, p.names = name :: rest ∧ name.points = .char '~' :: who ∧
    who ≠ [] ∧ null ∉ who ∧ w.accounts.lookup (Rough.ofPoints who) = none

/-- The names of all home folders are made of bytes, and of others than 0. -/
def Place.Sound (w : Place) : Prop :=
  ∀ home ∈ w.home :: w.accounts.map Prod.snd, ∀ name ∈ home.names,
    Bytewise name ∧ null ∉ name.points

theorem homeOf_eq_error_iff {w : Place} {who : List CodePoint} {e : Fault}
    (hbytes : Bytewise (Rough.ofPoints who)) :
    homeOf w who = .error e ↔ (e = .nullCharacter ∧ null ∈ who) ∨
      (e = .noHome ∧ who ≠ [] ∧ null ∉ who ∧ w.accounts.lookup (Rough.ofPoints who) = none) := by
  unfold homeOf
  split
  · simp
  · next hne =>
    rw [textFault?_of_bytewise hbytes, Rough.points_ofPoints]
    by_cases hnull : null ∈ who
    · simp [hnull, eq_comm]
    · rw [if_neg hnull]
      cases w.accounts.lookup (Rough.ofPoints who) with
      | some home => simp [hnull]
      | none => simp [hnull, eq_comm, show ¬ who = [] from hne]

theorem mem_homeOf {w : Place} (hw : w.Sound) {who : List CodePoint} {home : Path}
    (h : homeOf w who = .ok home) : ∀ name ∈ home.names, Bytewise name ∧ null ∉ name.points := by
  unfold homeOf at h
  split at h
  · cases h
    exact hw _ List.mem_cons_self
  · split at h
    · cases h
    · split at h
      · next hlookup =>
        cases h
        obtain ⟨before, after, haccounts, -⟩ := List.lookup_eq_some_iff.mp hlookup
        refine hw _ ?_
        simp [haccounts]
      · cases h

/-- What a path leads to, when its start was looked up. -/
theorem resolve_of_expandHome {w : Place} {p expanded : Path} (h : expandHome w p = .ok expanded)
    (hbytes : ∀ name ∈ expanded.names, Bytewise name) {e : Fault} : p.resolve w = .error e ↔
      e = .nullCharacter ∧ ∃ name ∈ expanded.names, null ∈ name.points := by
  have hfault : nameFault? (if expanded.start = .here then .here else .root) [] expanded.names =
      some e ↔ e = .nullCharacter ∧ ∃ name ∈ expanded.names, null ∈ name.points :=
    nameFault?_eq_some_iff (List.forall_mem_nil _) hbytes
  rw [← hfault]
  unfold resolve
  rw [h]
  simp only [bind, Except.bind]
  cases nameFault? (if expanded.start = .here then .here else .root) [] expanded.names with
  | none => exact ⟨nofun, nofun⟩
  | some e' =>
    show Except.error e' = .error e ↔ _
    rw [Except.error.injEq, Option.some.injEq]

/-- A path whose names can be asked for leads to its place from the root. -/
theorem resolve_of_nameFault? {w : Place} {p q : Path} (h : expandHome w p = .ok q)
    (hnone : nameFault? (if q.start = .here then .here else .root) [] q.names = none) :
    p.resolve w = .ok (absolute w q) := by
  unfold resolve
  rw [h]
  simp only [bind, Except.bind]
  rw [hnone]
  rfl

theorem resolve_of_expandHome_error {w : Place} {p : Path} {e e' : Fault}
    (h : expandHome w p = .error e') : p.resolve w = .error e ↔ e = e' := by
  unfold resolve
  rw [h]
  show Except.error e' = _ ↔ _
  rw [Except.error.injEq, eq_comm]

/-- A tilde at the start stands for a home; without one, a path stays as it is. -/
theorem expandHome_cases (w : Place) (p : Path) :
    (∃ name rest who, p.start = .here ∧ p.names = name :: rest ∧ name.points = .char '~' :: who ∧
      expandHome w p = (homeOf w who).map fun home => { home with names := home.names ++ rest }) ∨
    (expandHome w p = .ok p ∧ ¬ p.NoHome w) := by
  obtain ⟨start, names⟩ := p
  have hother : ∀ {start names}, (start = PathStart.here → ∀ name rest who, names = name :: rest →
      name.points ≠ .char '~' :: who) → ¬ NoHome w ⟨start, names⟩ := by
    intro start names h hno
    obtain ⟨hstart, name, rest, who, hnames, hname, -⟩ := hno
    exact h hstart name rest who hnames hname
  unfold expandHome
  dsimp only
  split
  · next name rest =>
    split
    · next who hname => exact .inl ⟨name, rest, who, rfl, rfl, hname, rfl⟩
    · next hname =>
      refine .inr ⟨rfl, hother fun _ name' rest' who hnames heq => ?_⟩
      cases hnames
      exact hname who heq
  · next hne =>
    refine .inr ⟨rfl, hother fun hstart name rest who hnames _ => ?_⟩
    exact hne name rest hstart hnames

/-- A path that starts with a home, and goes on from there. -/
theorem resolve_of_home {w : Place} {p home : Path} {rest : List Rough}
    (hexpand : expandHome w p = .ok { home with names := home.names ++ rest })
    (hhome : ∀ name ∈ home.names, Bytewise name ∧ null ∉ name.points)
    (hrest : ∀ name ∈ rest, Bytewise name) {e : Fault} :
    p.resolve w = .error e ↔ e = .nullCharacter ∧ ∃ name ∈ rest, null ∈ name.points := by
  have hall : ∀ n ∈ home.names ++ rest, Bytewise n :=
    List.forall_mem_append.mpr ⟨fun n hn => (hhome n hn).1, hrest⟩
  have hnone : ¬ ∃ n ∈ home.names, null ∈ n.points := by
    rintro ⟨n, hn, hmem⟩
    exact (hhome n hn).2 hmem
  rw [resolve_of_expandHome hexpand hall]
  simp only [List.mem_append, or_and_right, exists_or, or_iff_right hnone]

/-- **A path that starts with a tilde** leads nowhere just if the home is nobody's, or if a name in
    it has the character with number 0. -/
theorem resolve_of_tilde {w : Place} (hw : w.Sound) {p : Path} {rest : List Rough}
    {who : List CodePoint}
    (hexpand : expandHome w p =
      (homeOf w who).map fun home => { home with names := home.names ++ rest })
    (hwho : Bytewise (Rough.ofPoints who)) (hrest : ∀ name ∈ rest, Bytewise name) {e : Fault} :
    p.resolve w = .error e ↔
      (e = .noHome ∧ who ≠ [] ∧ null ∉ who ∧ w.accounts.lookup (Rough.ofPoints who) = none) ∨
      (e = .nullCharacter ∧
        ¬ (who ≠ [] ∧ null ∉ who ∧ w.accounts.lookup (Rough.ofPoints who) = none) ∧
        (null ∈ who ∨ ∃ name ∈ rest, null ∈ name.points)) := by
  have herror := fun e => homeOf_eq_error_iff (w := w) (e := e) hwho
  cases hhome : homeOf w who with
  | error e' =>
    rw [hhome] at hexpand
    rw [resolve_of_expandHome_error hexpand]
    rcases (herror e').mp hhome with ⟨rfl, hmem⟩ | ⟨rfl, hnobody⟩
    · simp [hmem]
    · simp [hnobody]
  | ok home =>
    rw [hhome] at hexpand herror
    have hnull : null ∉ who := fun hmem => nomatch (herror .nullCharacter).mpr (.inl ⟨rfl, hmem⟩)
    have hhas : ¬ (who ≠ [] ∧ null ∉ who ∧ w.accounts.lookup (Rough.ofPoints who) = none) :=
      fun hno => nomatch (herror .noHome).mpr (.inr ⟨rfl, hno⟩)
    rw [resolve_of_home hexpand (mem_homeOf hw hhome) hrest, or_iff_right hnull, eq_false hhas,
      not_false_eq_true, true_and, and_false, false_or]

/-- **A path leads nowhere just if it starts with a home that nobody has, or if a name in it has the
    character with number 0**, as long as the halves of its names stand for bytes. -/
theorem resolve_eq_error_iff {w : Place} (hw : w.Sound) {p : Path}
    (hp : ∀ name ∈ p.names, Bytewise name) {e : Fault} :
    p.resolve w = .error e ↔ (e = .noHome ∧ p.NoHome w) ∨
      (e = .nullCharacter ∧ ¬ p.NoHome w ∧ ∃ name ∈ p.names, null ∈ name.points) := by
  rcases expandHome_cases w p with
    ⟨name, rest, who, hstart, hnames, hname, hexpand⟩ | ⟨hexpand, hno⟩
  · have hnobody : p.NoHome w ↔
        who ≠ [] ∧ null ∉ who ∧ w.accounts.lookup (Rough.ofPoints who) = none := by
      constructor
      · intro hno
        obtain ⟨-, name', rest', who', hnames', hname', hwho⟩ := hno
        rw [hnames] at hnames'
        cases hnames'
        rw [hname] at hname'
        cases hname'
        exact hwho
      · exact fun hwho => ⟨hstart, name, rest, who, hnames, hname, hwho⟩
    have hnull : (∃ n ∈ p.names, null ∈ n.points) ↔
        null ∈ who ∨ ∃ n ∈ rest, null ∈ n.points := by
      have htilde : null ≠ .char '~' := by decide
      rw [hnames, List.exists_mem_cons_iff, hname, List.mem_cons, or_iff_right htilde]
    rw [hnames, List.forall_mem_cons] at hp
    obtain ⟨hfirst, hrest⟩ := hp
    have hbytes : Bytewise (Rough.ofPoints who) := by
      intro half hmem
      rw [Rough.points_ofPoints] at hmem
      exact hfirst half (hname ▸ List.mem_cons_of_mem _ hmem)
    rw [hnobody, hnull]
    exact resolve_of_tilde hw hexpand hbytes hrest
  · rw [resolve_of_expandHome hexpand hp]
    simp [hno]

end MapQuery.Path
