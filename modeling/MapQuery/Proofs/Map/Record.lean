import MapQuery.Proofs.Calendar.Iso
import MapQuery.Proofs.Json.Bounded
import MapQuery.Proofs.Map.Contents
import MapQuery.Proofs.Map.Unfit
import Mathlib.Data.List.Nodup

/-!
# What a map says of its objects

The record of an object is what is said of the object itself, apart from its place on the map and
from other objects. The records of a loaded map are sound: their numbers and their moments can be
written, no key of a tag stands twice, and an editor without a name is none.

* `Primitive.SameRecord` -- two objects have the same record;
* `Primitive.Sound` -- a sound record;
* `Reads.sound` -- the record of an element is sound, and the numbers that it mentions fit;
* `sound_of_load`, `load_of_ofStored` -- so are all records of a document, and of a file.
-/

namespace MapQuery

/-! ## 1. Records -/

theorem fits_zero : Fits 0 := by decide

namespace Primitive

/-- The same is said of two objects themselves. -/
structure SameRecord (p p' : Primitive) : Prop where
  kind : p.kind = p'.kind
  id : p.id = p'.id
  version : p.version = p'.version
  changeset : p.changeset = p'.changeset
  user : p.user = p'.user
  timestamp : p.timestamp = p'.timestamp
  tags : p.tags = p'.tags

/-- What is said of an object can be written and read again. -/
structure Sound (p : Primitive) : Prop where
  id : Fits p.id
  version : Fits p.version
  changeset : Fits p.changeset
  user : p.user.isEmptyLike = true → p.user = .null
  timestamp : ∀ t ∈ p.timestamp, t.Valid
  tags : (p.tags.given.map Prod.fst).Nodup

theorem SameRecord.sound {p p' : Primitive} (h : p.SameRecord p') (hp : p.Sound) : p'.Sound where
  id := h.id ▸ hp.id
  version := h.version ▸ hp.version
  changeset := h.changeset ▸ hp.changeset
  user := h.user ▸ hp.user
  timestamp := h.timestamp ▸ hp.timestamp
  tags := h.tags ▸ hp.tags

theorem SameRecord.trans {p p' p'' : Primitive} (h : p.SameRecord p') (h' : p'.SameRecord p'') :
    p.SameRecord p'' where
  kind := h.kind.trans h'.kind
  id := h.id.trans h'.id
  version := h.version.trans h'.version
  changeset := h.changeset.trans h'.changeset
  user := h.user.trans h'.user
  timestamp := h.timestamp.trans h'.timestamp
  tags := h.tags.trans h'.tags

theorem SameRecord.key {p p' : Primitive} (h : p.SameRecord p') : p.key = p'.key := by
  unfold Primitive.key
  rw [h.kind, h.id]

/-- Whoever refers to an object says nothing of it. -/
theorem sameRecord_referrers (p : Primitive) (referrers : List Handle) :
    p.SameRecord { p with referrers := referrers } :=
  ⟨rfl, rfl, rfl, rfl, rfl, rfl, rfl⟩

/-- Nor do the objects that it refers to. -/
theorem sameRecord_linked (place : Key → Handle) (p : Primitive) (ms : List Document.Mention) :
    p.SameRecord (Document.linked place p ms) := by
  refine ⟨?_, rfl, rfl, rfl, rfl, rfl, rfl⟩
  unfold Primitive.kind Document.linked
  cases p.shape <;> rfl

/-- Of a placeholder only its number is said. -/
theorem sound_placeholder {k : Key} (hk : Fits k.id) : (placeholder k).Sound where
  id := hk
  version := fits_zero
  changeset := fits_zero
  user := fun _ => rfl
  timestamp := nofun
  tags := List.nodup_nil

end Primitive

namespace Tags

theorem nodup_foldl_put (entries : List (Rough × Rough)) (t : Tags)
    (h : (t.given.map Prod.fst).Nodup) :
    ((entries.foldl (fun t (k, v) => t.put k v) t).given.map Prod.fst).Nodup := by
  induction entries generalizing t with
  | nil => exact h
  | cons e r ih => exact ih _ (nodup_putEntry e.1 e.2 t.given h)

/-- No key stands twice. -/
theorem nodup_ofList (entries : List (Rough × Rough)) :
    ((ofList entries).given.map Prod.fst).Nodup :=
  nodup_foldl_put entries {} List.nodup_nil

theorem putEntry_of_not_mem {key : Rough} {l : List (Rough × Rough)}
    (h : key ∉ l.map Prod.fst) (value : Rough) : putEntry key value l = l ++ [(key, value)] := by
  induction l with
  | nil => rfl
  | cons e r ih =>
    obtain ⟨hk, hr⟩ := List.ne_and_not_mem_of_not_mem_cons h
    rw [putEntry, if_neg hk.symm, ih hr]
    rfl

/-- Tags without a repeated key are as they were given. -/
theorem ofList_of_nodup {entries : List (Rough × Rough)} (h : (entries.map Prod.fst).Nodup) :
    ofList entries = ⟨entries⟩ := by
  unfold ofList
  induction entries using List.reverseRecOn with
  | nil => rfl
  | append_singleton r e ih =>
    rw [List.map_append, List.nodup_append] at h
    have hnew : e.1 ∉ r.map Prod.fst := fun hm => h.2.2 e.1 hm e.1 List.mem_cons_self rfl
    rw [List.foldl_append, ih h.1]
    exact congrArg Tags.mk (putEntry_of_not_mem hnew e.2)

end Tags

/-! ## 2. Elements -/

namespace Document

open MapQuery.Field (need orNull toInteger)

/-- All values of an object's fields are bounded. -/
def BoundedFields (fields : Fields) : Prop := ∀ f ∈ fields, f.2.Bounded

variable {kind : Kind} {fields : Fields} {j : Json} {name : String} {n : Int}

theorem fits_of_need (hf : BoundedFields fields) (h : need fields name >>= toInteger = .ok n) :
    Fits n := by
  obtain ⟨j, hj, hn⟩ := bind_eq_ok.mp h
  exact (Json.Bounded.of_findField hf (need_eq_ok.mp hj)).fits_of_toInteger hn

theorem fits_of_integerOrZero (hf : BoundedFields fields)
    (h : Field.integerOrZero fields name = .ok n) : Fits n := by
  unfold Field.integerOrZero at h
  split at h
  · next hj => exact (Json.Bounded.of_findField hf hj).fits_of_toInteger h
  · cases h
    exact fits_zero

theorem valid_of_toTime {time : Option Calendar.Moment} (h : Field.toTime j = .ok time) :
    ∀ t ∈ time, t.Valid := by
  unfold Field.toTime at h
  split at h
  · cases h
    nofun
  · split at h
    · next t ht =>
      cases h
      rintro _ ⟨⟩
      exact Calendar.valid_of_readIso ht
    · cases h

theorem boundedFields_of_elementOf (hj : j.Bounded) (h : elementOf j = some (kind, fields)) :
    BoundedFields fields := by
  unfold elementOf at h
  split at h
  · cases h
    cases hj with
    | obj hf => exact hf
  · cases h

theorem bounded_of_listOrEmpty {items : List Json} (hf : BoundedFields fields)
    (h : Field.listOrEmpty fields name = .ok items) : ∀ j ∈ items, j.Bounded := by
  intro j hj
  rcases mem_listOrEmpty h hj with harr | ⟨s, rfl⟩
  · cases Json.Bounded.of_findField hf harr with
    | arr hitems => exact hitems j hj
  · exact .str s

/-- The object of an element is sound. -/
theorem sound_of_attributes {p : Primitive} (hf : BoundedFields fields)
    (h : attributes kind fields = .ok p) : p.Sound := by
  have hp := described_of_attributes h
  obtain ⟨tags, -, htags⟩ := hp.tags
  refine ⟨fits_of_need hf hp.id, fits_of_integerOrZero hf hp.version,
    fits_of_integerOrZero hf hp.changeset, fun hempty => ?_, valid_of_toTime hp.timestamp,
    htags ▸ Tags.nodup_ofList tags⟩
  by_cases hname : (orNull fields "user").isEmptyLike = true
  · rw [hp.user, if_pos hname]
  · rw [hp.user, if_neg hname] at hempty
    exact absurd hempty hname

theorem fits_of_nodeMention {m : Mention} (hj : j.Bounded) (h : nodeMention? j = some m) :
    Fits m.key.id := by
  unfold nodeMention? at h
  split at h
  · next hn =>
    cases h
    exact hj.fits_of_toInteger hn
  · cases h

theorem fits_of_memberMention {m : Mention} (hj : j.Bounded) (h : memberMention? j = some m) :
    Fits m.key.id := by
  unfold memberMention? at h
  split at h
  · cases h
  · next hdescribed =>
    split at h
    · next hn =>
      cases h
      exact fits_of_need (boundedFields_of_elementOf hj hdescribed) hn
    · cases h

/-- **The record of an element is sound, and the numbers that it mentions fit.** -/
theorem Reads.sound {e : Element} (hf : BoundedFields fields) (h : Reads (kind, fields) e) :
    e.own.Sound ∧ ∀ m ∈ e.mentions, Fits m.key.id := by
  obtain ⟨hown, hmentions⟩ := h
  refine ⟨sound_of_attributes hf hown, fun m hm => ?_⟩
  cases kind with
  | node =>
    have hnone : e.mentions = [] := hmentions
    rw [hnone] at hm
    cases hm
  | way =>
    obtain ⟨items, hitems, hms⟩ := hmentions
    obtain ⟨j, hj, hread⟩ := exists_of_mem_right hms hm
    exact fits_of_nodeMention (bounded_of_listOrEmpty hf hitems j hj) hread
  | relation =>
    obtain ⟨items, hitems, hms⟩ := hmentions
    obtain ⟨j, hj, hread⟩ := exists_of_mem_right hms hm
    exact fits_of_memberMention (bounded_of_listOrEmpty hf hitems j hj) hread

/-! ## 3. Maps -/

variable {es : List Element} {c : Content} {h : Handle} {p : Primitive}

/-- **What elements add up to is sound.** -/
theorem sound_objectOf (hes : ∀ e ∈ es, e.own.Sound ∧ ∀ m ∈ e.mentions, Fits m.key.id) {k : Key}
    (hk : k ∈ keysOf es) : (objectOf es k).Sound := by
  unfold objectOf
  cases hlast : lastOf es k with
  | some e =>
    exact (Primitive.sameRecord_linked _ _ _).sound (hes e (lastOf_mem hlast).1).1
  | none =>
    have hother : k ∉ es.map Element.key := lastOf_eq_none_iff.mp hlast
    unfold keysOf at hk
    rw [List.mem_eraseDups, List.mem_append] at hk
    obtain ⟨e, he, htarget⟩ := List.mem_flatMap.mp (hk.resolve_left hother)
    obtain ⟨m, hm, rfl⟩ := List.mem_map.mp htarget
    exact Primitive.sound_placeholder ((hes e he).2 m hm)

/-- **All objects of a document are sound**, if the integers of the document fit. -/
theorem sound_of_load (hj : j.Bounded) (hload : (load j).outcome = .ok c)
    (hp : c.graph.get? h = some p) : p.Sound := by
  obtain ⟨items, box, es, b, hparts, hes, -, -, hpict, -⟩ := pictures_of_load hload
  have hitems : ∀ i ∈ items, i.Bounded := by
    unfold parts Json.field? at hparts
    split at hparts
    · next hfield =>
      cases hparts
      split at hfield
      · cases hj with
        | obj hf =>
          cases Json.Bounded.of_findField hf hfield with
          | arr hitems => exact hitems
      · cases hfield
    · cases hparts
  have hsound : ∀ e ∈ es, e.own.Sound ∧ ∀ m ∈ e.mentions, Fits m.key.id := fun e he => by
    obtain ⟨described, hdescribed, hread⟩ := exists_of_mem_right hes he
    obtain ⟨i, hi, hel⟩ := List.mem_filterMap.mp hdescribed
    exact hread.sound (boundedFields_of_elementOf (hitems i hi) hel)
  rw [hpict.object] at hp
  obtain ⟨k, hk, rfl⟩ := Option.map_eq_some_iff.mp hp
  exact (Primitive.sameRecord_referrers _ _).sound
    (sound_objectOf hsound (List.mem_of_getElem? hk))

/-- **The map of a file is that of a document** the integers of which fit. -/
theorem load_of_ofStored {path : Path} {s : Stored} (hc : (ofStored path s).1 = .ok c) :
    ∃ j : Json, j.Bounded ∧ (load j).outcome = .ok c := by
  unfold ofStored ofText at hc
  split at hc
  · cases hc
  · split at hc
    · cases hc
    · dsimp only at hc
      split at hc
      · cases hc
      · next j hread => exact ⟨j, Json.bounded_of_read hread, mapError_eq_ok.mp hc⟩

end Document

end MapQuery
