import MapQuery.Proofs.Map.Element
import MapQuery.Proofs.Number.Limit

/-!
# Numbers that fit no field

A document is refused for what it says, and the fault tells where. Two kinds of numbers are not
attributed to a place: an infinite one where an integer is read, and an integer without a double
where a real is read. A document that is refused so has such a number in a field that is read, and a
document that has one is never accepted.

* `Endless`, `Huge` -- the two kinds of numbers;
* `UnfitElement`, `Unfit` -- one in an element or a document, by the field it stands in;
* `unfit_of_attributes`, `unfit_of_linkOne` -- neither reading of an element fails so without one;
* `Reads.not_unfit` -- an element that was read has none;
* `unfit_of_load`, `load_of_unfit` -- a document is refused so only for one, and with one always.
-/

namespace MapQuery.Document

open MapQuery.Field (need orNull toInteger toReal)

/-! ## 1. Values -/

/-- An infinite real. -/
def Endless (j : Json) : Prop :=
  ∃ x negative, j = .real x ∧ Number.decode x = .infinite negative

/-- An integer that is nearer to `2 ^ 1024` than to any double. -/
def Huge (j : Json) : Prop :=
  ∃ n : Int, j = .int n ∧ Nat.pow 2 1024 ≤ n.natAbs + Nat.pow 2 970

/-- The only integers that overflow are infinite reals. -/
theorem toInteger_overflow {j : Json} {e : Field.Fault} :
    toInteger j = .error e ∧ e.isOverflow = true ↔ Endless j ∧ e = .infinite := by
  constructor
  · rintro ⟨h, he⟩
    unfold toInteger at h
    split at h
    · cases h
    · cases h
    · next x =>
      split at h
      · cases h
      · next hx =>
        cases h
        unfold Number.truncate at hx
        split at hx
        · cases hx
        · next negative hdecode => exact ⟨⟨x, negative, rfl, hdecode⟩, rfl⟩
        · cases hx
      · cases h
        cases he
    · obtain ⟨e', -, rfl⟩ := mapError_eq_error.mp h
      cases he
    · cases h
      cases he
  · rintro ⟨⟨x, negative, rfl, hdecode⟩, rfl⟩
    refine ⟨?_, rfl⟩
    unfold toInteger Number.truncate
    simp only [hdecode]

/-- The only reals that overflow are integers without a double. -/
theorem toReal_overflow {j : Json} {e : Field.Fault} :
    toReal j = .error e ∧ e.isOverflow = true ↔ Huge j ∧ e = .tooLarge := by
  constructor
  · rintro ⟨h, he⟩
    unfold toReal at h
    split at h
    · cases h
    · next n =>
      split at h
      · cases h
      · next hn =>
        cases h
        exact ⟨⟨n, rfl, (Number.ofInteger_eq_none_iff n).mp hn⟩, rfl⟩
    · cases h
    · obtain ⟨e', -, rfl⟩ := mapError_eq_error.mp h
      cases he
    · cases h
      cases he
  · rintro ⟨⟨n, rfl, hn⟩, rfl⟩
    refine ⟨?_, rfl⟩
    unfold toReal
    simp only [(Number.ofInteger_eq_none_iff n).mpr hn]

theorem Endless.not_text {j : Json} (h : Endless j) (s : Rough) : j ≠ .str s := by
  obtain ⟨x, negative, rfl, -⟩ := h
  exact nofun

/-! ## 2. Fields -/

theorem need_eq_ok {fields : Fields} {name : String} {j : Json} :
    need fields name = .ok j ↔ Json.findField fields name = some j := by
  unfold need
  cases Json.findField fields name <;> simp

theorem need_eq_error {fields : Fields} {name : String} {e : Field.Fault}
    (h : need fields name = .error e) : e.isOverflow = false := by
  unfold need at h
  split at h
  · cases h
  · cases h
    rfl

/-- An integer that has to be there. -/
theorem needInteger_overflow {fields : Fields} {name : String} {e : Field.Fault}
    (h : need fields name >>= toInteger = .error e) (he : e.isOverflow = true) :
    ∃ j, Json.findField fields name = some j ∧ Endless j ∧ e = .infinite := by
  rcases bind_eq_error.mp h with h | ⟨j, hj, h⟩
  · rw [need_eq_error h] at he
    cases he
  · exact ⟨j, need_eq_ok.mp hj, toInteger_overflow.mp ⟨h, he⟩⟩

theorem integerOrZero_of_findField {fields : Fields} {name : String} {j : Json}
    (h : Json.findField fields name = some j) : Field.integerOrZero fields name = toInteger j := by
  unfold Field.integerOrZero
  rw [h]

theorem integerOrZero_overflow {fields : Fields} {name : String} {e : Field.Fault}
    (h : Field.integerOrZero fields name = .error e) (he : e.isOverflow = true) :
    ∃ j, Json.findField fields name = some j ∧ Endless j ∧ e = .infinite := by
  unfold Field.integerOrZero at h
  split at h
  · next j hj => exact ⟨j, hj, toInteger_overflow.mp ⟨h, he⟩⟩
  · cases h

/-- A real that has to be there. -/
theorem needReal_overflow {fields : Fields} {name : String} {e : Field.Fault}
    (h : need fields name >>= toReal = .error e) (he : e.isOverflow = true) :
    ∃ j, Json.findField fields name = some j ∧ Huge j ∧ e = .tooLarge := by
  rcases bind_eq_error.mp h with h | ⟨j, hj, h⟩
  · rw [need_eq_error h] at he
    cases he
  · exact ⟨j, need_eq_ok.mp hj, toReal_overflow.mp ⟨h, he⟩⟩

theorem optionalReal_overflow {fields : Fields} {name : String} {e : Field.Fault}
    (h : Field.optionalReal fields name = .error e) (he : e.isOverflow = true) :
    ∃ j, Json.findField fields name = some j ∧ Huge j ∧ e = .tooLarge := by
  unfold Field.optionalReal orNull at h
  split at h
  · cases h
  · next hnull =>
    cases hj : Json.findField fields name with
    | none => exact absurd (by rw [hj]; rfl) hnull
    | some j =>
      rw [hj] at h
      exact ⟨j, rfl, toReal_overflow.mp ⟨map_eq_error.mp h, he⟩⟩

theorem toTexts_eq_error {j : Json} {e : Field.Fault} (h : Field.toTexts j = .error e) :
    e.isOverflow = false := by
  unfold Field.toTexts at h
  split at h
  · cases h
  · split at h
    · cases h
    · cases h
      rfl

theorem toTime_eq_error {j : Json} {e : Field.Fault} (h : Field.toTime j = .error e) :
    e.isOverflow = false := by
  unfold Field.toTime at h
  split at h
  · cases h
  · split at h
    · cases h
    · cases h
      rfl

theorem listOrEmpty_eq_error {fields : Fields} {name : String} {e : Field.Fault}
    (h : Field.listOrEmpty fields name = .error e) : e.isOverflow = false := by
  unfold Field.listOrEmpty at h
  split at h
  · unfold Field.toList at h
    split at h
    · cases h
    · cases h
    · cases h
    · cases h
      rfl
  · cases h

theorem listOrEmpty_of_findField {fields : Fields} {name : String} {items : List Json}
    (h : Json.findField fields name = some (.arr items)) :
    Field.listOrEmpty fields name = .ok items := by
  unfold Field.listOrEmpty
  rw [h]
  rfl

/-- What is gone through in a field that is no list are texts. -/
theorem mem_listOrEmpty {fields : Fields} {name : String} {items : List Json} {j : Json}
    (h : Field.listOrEmpty fields name = .ok items) (hj : j ∈ items) :
    Json.findField fields name = some (.arr items) ∨ ∃ s, j = .str s := by
  unfold Field.listOrEmpty at h
  split at h
  · next v hv =>
    unfold Field.toList at h
    split at h
    · cases h
      exact .inl hv
    · cases h
      obtain ⟨c, -, rfl⟩ := List.mem_map.mp hj
      exact .inr ⟨_, rfl⟩
    · cases h
      obtain ⟨f, -, rfl⟩ := List.mem_map.mp hj
      exact .inr ⟨_, rfl⟩
    · cases h
  · cases h
    cases hj

/-- Only lists have members that are no texts. -/
theorem findField_of_mem {fields : Fields} {name : String} {items : List Json} {j : Json}
    (h : Field.listOrEmpty fields name = .ok items) (hj : j ∈ items) (htext : ∀ s, j ≠ .str s) :
    Json.findField fields name = some (.arr items) :=
  (mem_listOrEmpty h hj).resolve_right fun ⟨s, hs⟩ => htext s hs

/-! ## 3. Elements -/

/-- The fields of an object that an integer is read from. -/
def integerFields : List String := ["id", "version", "changeset"]

/-- The fields of a node that a real is read from. -/
def realFields : List String := ["lat", "lon"]

/-- The fields of a box. -/
def boxFields : List String := ["minlat", "minlon", "maxlat", "maxlon"]

/-- **A number of an element that fits no field**: an infinite real for an integer of the object or
    of something that it refers to, or a huge integer for a coordinate. -/
inductive UnfitElement : Kind × Fields → Field.Fault → Prop
  | integer {kind : Kind} {fields : Fields} {name : String} {j : Json} :
      name ∈ integerFields → Json.findField fields name = some j → Endless j →
      UnfitElement (kind, fields) .infinite
  | coordinate {fields : Fields} {name : String} {j : Json} :
      name ∈ realFields → Json.findField fields name = some j → Huge j →
      UnfitElement (.node, fields) .tooLarge
  | node {fields : Fields} {items : List Json} {j : Json} :
      Json.findField fields "nodes" = some (.arr items) → j ∈ items → Endless j →
      UnfitElement (.way, fields) .infinite
  | member {fields described : Fields} {items : List Json} {j ref : Json} {kind : Kind} :
      Json.findField fields "members" = some (.arr items) → j ∈ items →
      elementOf j = some (kind, described) → Json.findField described "ref" = some ref →
      Endless ref → UnfitElement (.relation, fields) .infinite

/-- **The object of an element overflows only for a number that fits no field.** -/
theorem unfit_of_attributes {kind : Kind} {fields : Fields} {e : Field.Fault}
    (h : attributes kind fields = .error e) (he : e.isOverflow = true) :
    UnfitElement (kind, fields) e := by
  have hinteger : ∀ name ∈ integerFields,
      (∃ j, Json.findField fields name = some j ∧ Endless j ∧ e = .infinite) →
      UnfitElement (kind, fields) e := by
    rintro name hname ⟨j, hj, hend, rfl⟩
    exact .integer hname hj hend
  have hreal : ∀ name ∈ realFields, Field.optionalReal fields name = .error e →
      UnfitElement (.node, fields) e := by
    intro name hname h
    obtain ⟨j, hj, hhuge, rfl⟩ := optionalReal_overflow h he
    exact .coordinate hname hj hhuge
  unfold attributes at h
  rcases bind_bind_eq_error.mp h with hid | ⟨id, -, h⟩
  · exact hinteger "id" (by decide) (needInteger_overflow hid he)
  rcases bind_eq_error.mp h with htags | ⟨tags, -, h⟩
  · rw [toTexts_eq_error htags] at he
    cases he
  rcases bind_eq_error.mp h with hversion | ⟨version, -, h⟩
  · exact hinteger "version" (by decide) (integerOrZero_overflow hversion he)
  rcases bind_eq_error.mp h with hchangeset | ⟨changeset, -, h⟩
  · exact hinteger "changeset" (by decide) (integerOrZero_overflow hchangeset he)
  rcases bind_eq_error.mp h with htime | ⟨timestamp, -, h⟩
  · rw [toTime_eq_error htime] at he
    cases he
  cases kind with
  | node =>
    rcases bind_eq_error.mp h with hlat | ⟨lat, -, h⟩
    · exact hreal "lat" (by decide) hlat
    rcases bind_eq_error.mp h with hlon | ⟨lon, -, h⟩
    · exact hreal "lon" (by decide) hlon
    cases h
  | way =>
    rcases bind_eq_error.mp h with h | ⟨shape, -, h⟩ <;> cases h
  | relation =>
    rcases bind_eq_error.mp h with h | ⟨shape, -, h⟩ <;> cases h

theorem ofReference_eq_number {owner : Key} {e e' : Field.Fault}
    (h : Fault.ofReference owner e' = .number e) : e' = e ∧ e.isOverflow = true := by
  unfold Fault.ofReference at h
  split at h
  · next he =>
    cases h
    exact ⟨rfl, he⟩
  · cases h

theorem unfit_of_linkNodes {owner : Key} {d : Draft} {items : List Json} {e : Field.Fault}
    (h : linkNodes owner d items = .error (.number e)) :
    ∃ j ∈ items, Endless j ∧ e = .infinite := by
  induction items generalizing d with
  | nil => cases h
  | cons j r ih =>
    unfold linkNodes at h
    split at h
    · next e' hj =>
      obtain ⟨rfl, he⟩ := ofReference_eq_number (Except.error.inj h)
      exact ⟨j, List.mem_cons_self, toInteger_overflow.mp ⟨hj, he⟩⟩
    · rcases bind_eq_error.mp h with h | ⟨_, -, h⟩
      · obtain ⟨j', hj', hend⟩ := ih h
        exact ⟨j', List.mem_cons_of_mem j hj', hend⟩
      · cases h

theorem unfit_of_linkMembers {owner : Key} {d : Draft} {items : List Json} {e : Field.Fault}
    (h : linkMembers owner d items = .error (.number e)) :
    ∃ j ∈ items, ∃ kind described ref, elementOf j = some (kind, described) ∧
      Json.findField described "ref" = some ref ∧ Endless ref ∧ e = .infinite := by
  induction items generalizing d with
  | nil => cases h
  | cons j r ih =>
    unfold linkMembers at h
    split at h
    · cases h
    · next kind described hj =>
      split at h
      · next e' href =>
        obtain ⟨rfl, he⟩ := ofReference_eq_number (Except.error.inj h)
        obtain ⟨ref, hfield, hend⟩ := needInteger_overflow href he
        exact ⟨j, List.mem_cons_self, kind, described, ref, hj, hfield, hend⟩
      · rcases bind_eq_error.mp h with h | ⟨_, -, h⟩
        · obtain ⟨j', hj', hend⟩ := ih h
          exact ⟨j', List.mem_cons_of_mem j hj', hend⟩
        · cases h

/-- The list of references itself never overflows. -/
theorem listOrEmpty_ne_number {owner : Key} {fields : Fields} {name : String} {e : Field.Fault} :
    (Field.listOrEmpty fields name).mapError (Fault.ofReference owner) ≠ .error (.number e) := by
  intro h
  obtain ⟨e', he', h⟩ := mapError_eq_error.mp h
  obtain ⟨rfl, he⟩ := ofReference_eq_number h
  rw [listOrEmpty_eq_error he'] at he
  cases he

/-- **The references of an element overflow only for a number that fits no field.** -/
theorem unfit_of_linkOne {d : Draft} {owner : Key} {fields : Fields} {e : Field.Fault}
    (h : linkOne d owner fields = .error (.number e)) : UnfitElement (owner.kind, fields) e := by
  unfold linkOne at h
  split at h
  · cases h
  · next hkind =>
    rcases bind_eq_error.mp h with h | ⟨items, hitems, h⟩
    · exact absurd h listOrEmpty_ne_number
    rcases bind_eq_error.mp h with h | ⟨_, -, h⟩
    · obtain ⟨j, hj, hend, rfl⟩ := unfit_of_linkNodes h
      rw [hkind]
      exact .node (findField_of_mem (mapError_eq_ok.mp hitems) hj hend.not_text) hj hend
    · cases h
  · next hkind =>
    rcases bind_eq_error.mp h with h | ⟨items, hitems, h⟩
    · exact absurd h listOrEmpty_ne_number
    rcases bind_eq_error.mp h with h | ⟨_, -, h⟩
    · obtain ⟨j, hj, kind, described, ref, hdescribed, href, hend, rfl⟩ := unfit_of_linkMembers h
      have htext : ∀ s, j ≠ .str s := by
        rintro s rfl
        cases hdescribed
      rw [hkind]
      exact .member (findField_of_mem (mapError_eq_ok.mp hitems) hj htext) hj hdescribed href hend
    · cases h

theorem unfit_of_link {d : Draft} {elements : List (Key × Fields)} {e : Field.Fault}
    (h : link d elements = .error (.number e)) :
    ∃ x ∈ elements, UnfitElement (x.1.kind, x.2) e := by
  induction elements generalizing d with
  | nil => cases h
  | cons x r ih =>
    obtain ⟨owner, fields⟩ := x
    unfold link at h
    rcases bind_eq_error.mp h with h | ⟨d', -, h⟩
    · exact ⟨_, List.mem_cons_self, unfit_of_linkOne h⟩
    · obtain ⟨x, hx, hunfit⟩ := ih h
      exact ⟨x, List.mem_cons_of_mem _ hx, hunfit⟩

/-- What is linked was read as the object of an element with the same fields. -/
theorem mem_of_mem_zipWith {described : List (Kind × Fields)} {ps : List Primitive}
    (hps : List.Forall₂ (fun e p => attributes e.1 e.2 = .ok p) described ps) {x : Key × Fields}
    (hx : x ∈ List.zipWith (fun p e => (p.key, e.2)) ps described) :
    (x.1.kind, x.2) ∈ described := by
  induction hps with
  | nil => cases hx
  | @cons e p described ps hp _ ih =>
    have hkind : p.key.kind = e.1 := (described_of_attributes hp).kind
    rcases List.mem_cons.mp hx with rfl | hx
    · rw [hkind]
      exact List.mem_cons_self
    · exact List.mem_cons_of_mem _ (ih hx)

/-- **The first reading overflows only for a number that fits no field.** -/
theorem unfit_of_gather {g g' : Gathered} {items : List Json} {e : Field.Fault}
    (h : gather g items = (g', some (.number e))) :
    ∃ described ∈ recognised items, UnfitElement described e := by
  induction items generalizing g with
  | nil => cases h
  | cons j r ih =>
    have hrest : ∀ {g : Gathered}, gather g r = (g', some (.number e)) →
        ∃ described ∈ recognised (j :: r), UnfitElement described e := by
      intro g h
      obtain ⟨x, hx, hunfit⟩ := ih h
      refine ⟨x, ?_, hunfit⟩
      unfold recognised at hx ⊢
      rw [List.filterMap_cons]
      split
      · exact hx
      · exact List.mem_cons_of_mem _ hx
    unfold gather gatherOne at h
    cases hj : elementOf j with
    | none =>
      rw [hj] at h
      exact hrest h
    | some described =>
      obtain ⟨kind, fields⟩ := described
      rw [hj] at h
      simp only at h
      cases hp : attributes kind fields with
      | ok p =>
        rw [hp] at h
        exact hrest h
      | error e' =>
        rw [hp] at h
        simp only [Prod.mk.injEq, Option.some.injEq] at h
        have hnumber := h.2
        unfold Fault.ofElement at hnumber
        split at hnumber
        · next he =>
          cases hnumber
          exact ⟨(kind, fields), List.mem_filterMap.mpr ⟨j, List.mem_cons_self, hj⟩,
            unfit_of_attributes hp he⟩
        · cases hnumber

/-- **An element that was read has only numbers that fit.** -/
theorem Reads.not_unfit {described : Kind × Fields} {el : Element} {e : Field.Fault}
    (h : Reads described el) : ¬ UnfitElement described e := by
  intro hunfit
  obtain ⟨hown, hmentions⟩ := h
  cases hunfit with
  | integer hname hj hend =>
    have hinfinite := (toInteger_overflow.mpr ⟨hend, rfl⟩).1
    have hdescribed := described_of_attributes hown
    simp only [integerFields, List.mem_cons, List.not_mem_nil, or_false] at hname
    rcases hname with rfl | rfl | rfl
    · obtain ⟨j, hj', hid⟩ := bind_eq_ok.mp hdescribed.id
      cases hj.symm.trans (need_eq_ok.mp hj')
      exact nomatch hinfinite.symm.trans hid
    · exact nomatch hinfinite.symm.trans
        ((integerOrZero_of_findField hj).symm.trans hdescribed.version)
    · exact nomatch hinfinite.symm.trans
        ((integerOrZero_of_findField hj).symm.trans hdescribed.changeset)
  | @coordinate fields _ _ hname hj hhuge =>
    have hlarge := (toReal_overflow.mpr ⟨hhuge, rfl⟩).1
    obtain ⟨hlat, hlon⟩ := (described_of_attributes hown).coordinates rfl
    have hread : ∀ name ∈ realFields, ∃ x, Field.optionalReal fields name = .ok x :=
      List.forall_mem_cons.mpr ⟨hlat, List.forall_mem_singleton.mpr hlon⟩
    obtain ⟨x, hx⟩ := hread _ hname
    obtain ⟨n, rfl, -⟩ := hhuge
    unfold Field.optionalReal orNull at hx
    rw [hj] at hx
    obtain ⟨y, hy, -⟩ := map_eq_ok.mp hx
    exact nomatch hlarge.symm.trans hy
  | node hfield hj hend =>
    have hinfinite := (toInteger_overflow.mpr ⟨hend, rfl⟩).1
    obtain ⟨items, hitems, hms⟩ := hmentions
    cases (listOrEmpty_of_findField hfield).symm.trans hitems
    obtain ⟨m, -, hm⟩ := exists_of_mem_left hms hj
    unfold nodeMention? at hm
    rw [hinfinite] at hm
    cases hm
  | member hfield hj hdescribed href hend =>
    have hinfinite := (toInteger_overflow.mpr ⟨hend, rfl⟩).1
    obtain ⟨items, hitems, hms⟩ := hmentions
    cases (listOrEmpty_of_findField hfield).symm.trans hitems
    obtain ⟨m, -, hm⟩ := exists_of_mem_left hms hj
    unfold memberMention? at hm
    rw [hdescribed] at hm
    have hneed := bind_eq_error.mpr (.inr ⟨_, need_eq_ok.mpr href, hinfinite⟩)
    simp only [hneed] at hm
    cases hm

/-! ## 4. Documents -/

/-- **A number of a document that fits no field**, with the fault that it makes. -/
inductive Unfit (j : Json) : Field.Fault → Prop
  | element {items : List Json} {box : Json} {described : Kind × Fields} {e : Field.Fault} :
      parts j = some (items, box) → described ∈ recognised items → UnfitElement described e →
      Unfit j e
  | box {items : List Json} {fields : Fields} {name : String} {side : Json} :
      parts j = some (items, .obj fields) → name ∈ boxFields →
      Json.findField fields name = some side → Huge side → Unfit j .tooLarge

/-- The sides of a box overflow only where they are huge. -/
theorem huge_of_boundsOf {fields : Fields} {e : Field.Fault} (h : boundsOf fields = .error e)
    (he : e.isOverflow = true) :
    ∃ name ∈ boxFields, ∃ side, Json.findField fields name = some side ∧ Huge side ∧
      e = .tooLarge := by
  unfold boundsOf at h
  rcases bind_bind_eq_error.mp h with h | ⟨_, -, h⟩
  · exact ⟨"minlat", by decide, needReal_overflow h he⟩
  rcases bind_bind_eq_error.mp h with h | ⟨_, -, h⟩
  · exact ⟨"minlon", by decide, needReal_overflow h he⟩
  rcases bind_bind_eq_error.mp h with h | ⟨_, -, h⟩
  · exact ⟨"maxlat", by decide, needReal_overflow h he⟩
  rcases bind_bind_eq_error.mp h with h | ⟨_, -, h⟩
  · exact ⟨"maxlon", by decide, needReal_overflow h he⟩
  cases h

theorem sides_of_boundsOf {fields : Fields} {b : Bounds} (h : boundsOf fields = .ok b) :
    ∀ name ∈ boxFields, ∃ x, need fields name >>= toReal = .ok x := by
  unfold boundsOf at h
  obtain ⟨minLat, hminLat, h⟩ := bind_bind_eq_ok.mp h
  obtain ⟨minLon, hminLon, h⟩ := bind_bind_eq_ok.mp h
  obtain ⟨maxLat, hmaxLat, h⟩ := bind_bind_eq_ok.mp h
  obtain ⟨maxLon, hmaxLon, h⟩ := bind_bind_eq_ok.mp h
  simp only [boxFields, List.mem_cons, List.not_mem_nil, or_false]
  rintro name (rfl | rfl | rfl | rfl)
  · exact ⟨minLat, hminLat⟩
  · exact ⟨minLon, hminLon⟩
  · exact ⟨maxLat, hmaxLat⟩
  · exact ⟨maxLon, hmaxLon⟩

/-- **A document is refused for a number only if that fits no field.** -/
theorem unfit_of_load {j : Json} {e : Field.Fault} (h : (load j).outcome = .error (.number e)) :
    Unfit j e := by
  unfold load at h
  split at h
  · cases h
  · next items box hparts =>
    split at h
    · next g f hg =>
      cases h
      obtain ⟨described, hdescribed, hunfit⟩ := unfit_of_gather hg
      exact .element hparts hdescribed hunfit
    · next g hg =>
      obtain ⟨ps, hps, rfl⟩ := gather_eq_none.mp hg
      unfold Gathered.content at h
      rcases bind_eq_error.mp h with hlink | ⟨d, -, h⟩
      · obtain ⟨x, hx, hunfit⟩ := unfit_of_link hlink
        exact .element hparts (mem_of_mem_zipWith hps hx) hunfit
      rcases bind_eq_error.mp h with hbox | ⟨b, -, h⟩
      · unfold readBounds at hbox
        split at hbox
        · cases hbox
        · next fields =>
          split at hbox
          · cases hbox
          · next e' he' =>
            split at hbox
            · next he =>
              cases hbox
              obtain ⟨name, hname, side, hside, hhuge, rfl⟩ := huge_of_boundsOf he' he
              exact .box hparts hname hside hhuge
            · cases hbox
        · cases hbox
      · cases h

/-- **A document with a number that fits no field is refused.** -/
theorem load_of_unfit {j : Json} {e : Field.Fault} (h : Unfit j e) :
    ∃ f, (load j).outcome = .error f := by
  cases hload : (load j).outcome with
  | error f => exact ⟨f, rfl⟩
  | ok c =>
    obtain ⟨items, box, es, b, hparts, hes, hbox, -⟩ := load_eq_ok_iff.mp hload
    cases h with
    | element hparts' hdescribed hunfit =>
      cases hparts.symm.trans hparts'
      obtain ⟨el, -, hreads⟩ := exists_of_mem_left hes hdescribed
      exact absurd hunfit hreads.not_unfit
    | box hparts' hname hside hhuge =>
      cases hparts.symm.trans hparts'
      have hlarge := (toReal_overflow.mpr ⟨hhuge, rfl⟩).1
      unfold readBounds at hbox
      dsimp only at hbox
      split at hbox
      · next b' hb' =>
        obtain ⟨x, hx⟩ := sides_of_boundsOf hb' _ hname
        obtain ⟨side, hside', hx⟩ := bind_eq_ok.mp hx
        cases hside.symm.trans (need_eq_ok.mp hside')
        exact nomatch hlarge.symm.trans hx
      · cases hbox

end MapQuery.Document
