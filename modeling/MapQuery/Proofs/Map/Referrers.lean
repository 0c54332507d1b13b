import MapQuery.Map.Document
import MapQuery.Proofs.Map.Register

/-!
# Who refers to an object

Objects hold their nodes and members; that these are referred to is registered afterwards, when the
objects are added to the data set one by one.

* `Graph.childrenAt` -- the nodes or members of the object at a place;
* `Graph.referred` -- the graph in which each object knows which objects of a list refer to it;
* `register_referred` -- registering one more object makes the list longer by it;
* `content_eq` -- the data set of a draft has its keys, and each object knows all that refer to it.
-/

namespace MapQuery

/-- An object that knows that another one refers to it. -/
def Primitive.referredBy (p : Primitive) (r : Handle) : Primitive :=
  if p.referrers.contains r then p else { p with referrers := p.referrers ++ [r] }

/-- That an object refers to another one is registered once. -/
theorem Primitive.referredBy_referredBy (p : Primitive) (r : Handle) :
    (p.referredBy r).referredBy r = p.referredBy r := by
  unfold referredBy
  by_cases h : p.referrers.contains r = true
  · rw [if_pos h, if_pos h]
  · rw [if_neg h, if_pos (by simp)]

namespace Graph

variable {g g' : Graph} {h r c : Handle} {hs : List Handle}

/-! ## 1. Changes of a graph, place by place -/

/-- Graphs with the same objects at all places are the same. -/
theorem ext_get? (h : ∀ i, g.get? i = g'.get? i) : g = g' := by
  obtain ⟨objects⟩ := g
  obtain ⟨objects'⟩ := g'
  congr 1
  exact Array.ext_getElem? h

theorem get?_update (g : Graph) (h : Handle) (f : Primitive → Primitive) (i : Handle) :
    (g.update h f).get? i = if h = i then (g.get? i).map f else g.get? i :=
  Array.getElem?_modify

theorem get?_addReferrer (g : Graph) (c r i : Handle) :
    (g.addReferrer c r).get? i =
      (g.get? i).map fun p => if i = c then p.referredBy r else p := by
  unfold addReferrer
  rw [get?_update]
  by_cases h : c = i
  · subst h
    rw [if_pos rfl]
    simp only [if_true]
    rfl
  · have h' : ¬ i = c := fun e => h e.symm
    rw [if_neg h]
    simp only [h', if_false, Option.map_id_fun', id]

/-- The nodes or members of the object at a place. -/
def childrenAt (g : Graph) (h : Handle) : List Handle :=
  ((g.get? h).map Primitive.children).getD []

theorem childrenAt_eq {p : Primitive} (hp : g.get? h = some p) :
    g.childrenAt h = p.children := by
  unfold childrenAt
  rw [hp]
  rfl

theorem get?_foldl_addReferrer (g : Graph) (r : Handle) (cs : List Handle) (i : Handle) :
    (cs.foldl (fun g c => g.addReferrer c r) g).get? i =
      (g.get? i).map fun p => if i ∈ cs then p.referredBy r else p := by
  induction cs generalizing g with
  | nil => simp
  | cons c cs ih =>
    rw [List.foldl_cons, ih, get?_addReferrer, Option.map_map]
    congr 1
    funext p
    by_cases hc : i = c
    · -- a child that occurs again knows already
      subst hc
      simp [Primitive.referredBy_referredBy]
    · simp [hc]

/-- **All children of the object that is registered know it then**, and nothing else changes. -/
theorem get?_register (g : Graph) (r i : Handle) :
    (g.register r).get? i =
      (g.get? i).map fun p => if i ∈ g.childrenAt r then p.referredBy r else p := by
  unfold register
  cases hr : g.get? r with
  | none =>
    have hnone : g.childrenAt r = [] := by
      unfold childrenAt
      rw [hr]
      rfl
    rw [hnone]
    simp
  | some p =>
    rw [childrenAt_eq hr]
    exact get?_foldl_addReferrer g r p.children i

/-! ## 2. Graphs in which referrers are known -/

/-- The graph in which each object knows which objects of a list refer to it. -/
def referred (g : Graph) (hs : List Handle) : Graph :=
  ⟨g.objects.mapIdx fun i p =>
    { p with referrers := hs.filter fun r => (g.childrenAt r).contains i }⟩

theorem get?_referred (g : Graph) (hs : List Handle) (i : Handle) :
    (g.referred hs).get? i = (g.get? i).map fun p =>
      { p with referrers := hs.filter fun r => (g.childrenAt r).contains i } :=
  Array.getElem?_mapIdx

theorem childrenAt_referred (g : Graph) (hs : List Handle) (i : Handle) :
    (g.referred hs).childrenAt i = g.childrenAt i := by
  unfold childrenAt
  rw [get?_referred, Option.map_map]
  rfl

theorem referred_nil (hg : ∀ i p, g.get? i = some p → p.referrers = []) :
    g.referred [] = g := by
  refine ext_get? fun i => ?_
  rw [get?_referred]
  cases hp : g.get? i with
  | none => rfl
  | some p =>
    show some { p with referrers := [] } = some p
    rw [← hg i p hp]

/-- **Registering one more object makes the list of those that are known longer by it.** -/
theorem register_referred (hr : r ∉ hs) :
    (g.referred hs).register r = g.referred (hs ++ [r]) := by
  refine ext_get? fun i => ?_
  rw [get?_register, get?_referred, get?_referred, childrenAt_referred, Option.map_map]
  congr 1
  funext p
  simp only [Function.comp_apply, List.filter_append]
  by_cases hi : i ∈ g.childrenAt r
  · have hnew : ¬ (hs.filter fun r => (g.childrenAt r).contains i).contains r = true := by
      rw [List.contains_iff_mem, List.mem_filter]
      exact fun hm => hr hm.1
    have hone : ([r].filter fun r => (g.childrenAt r).contains i) = [r] :=
      List.filter_cons_of_pos (List.contains_iff_mem.mpr hi)
    rw [if_pos hi, hone]
    unfold Primitive.referredBy
    rw [if_neg hnew]
  · have hnone : ([r].filter fun r => (g.childrenAt r).contains i) = [] :=
      List.filter_cons_of_neg fun hm => hi (List.contains_iff_mem.mp hm)
    rw [if_neg hi, hnone, List.append_nil]

end Graph

/-! ## 3. Data sets -/

namespace DataSet

theorem putEntry_of_not_mem {key : Key} {h : Handle} {l : List (Key × Handle)}
    (hk : key ∉ l.map Prod.fst) : putEntry key h l = l ++ [(key, h)] := by
  induction l with
  | nil => rfl
  | cons e r ih =>
    obtain ⟨k, v⟩ := e
    rw [List.map_cons, List.mem_cons, not_or] at hk
    rw [putEntry, if_neg (fun e => hk.1 e.symm), ih hk.2]
    rfl

/-- **Objects added one by one** come in that order, and the first ones are known by then. -/
theorem addAll_range {g : Graph} {ks : List Key} (hn : ks.Nodup)
    (hg : ∀ i, (g.get? i).map Primitive.key = ks[i]?) (b : Option Bounds) {n : Nat}
    (hle : n ≤ ks.length) :
    ({ bounds := b } : DataSet).addAll (g.referred []) (List.range n) =
      ({ entries := (ks.take n).zipIdx, bounds := b }, g.referred (List.range n)) := by
  induction n with
  | zero => rfl
  | succ n ih =>
    have hlt : n < ks.length := hle
    obtain ⟨p, hp, hkey⟩ : ∃ p, g.get? n = some p ∧ p.key = ks[n] := by
      have hn := hg n
      rw [List.getElem?_eq_getElem hlt, Option.map_eq_some_iff] at hn
      exact hn
    have hnew : ks[n] ∉ ((ks.take n).zipIdx).map Prod.fst := by
      rw [List.zipIdx_map_fst]
      have htake : (ks.take (n + 1)).Nodup := hn.sublist (List.take_sublist _ _)
      rw [List.take_succ_eq_append_getElem hlt] at htake
      exact fun hm => (List.disjoint_of_nodup_append htake) hm (List.mem_singleton.mpr rfl)
    have hentries : (ks.take n).zipIdx ++ [(ks[n], n)] = (ks.take (n + 1)).zipIdx := by
      rw [List.take_succ_eq_append_getElem hlt, List.zipIdx_append, List.length_take,
        Nat.min_eq_left (Nat.le_of_lt hlt), Nat.zero_add]
      rfl
    unfold addAll at ih ⊢
    rw [List.range_succ, List.foldl_append, ih (Nat.le_of_lt hlt)]
    show DataSet.add _ _ n = _
    unfold add
    rw [Graph.get?_referred, hp]
    show (({ entries := putEntry p.key n _, bounds := b } : DataSet), _) = _
    rw [hkey, putEntry_of_not_mem hnew, hentries, Graph.register_referred List.not_mem_range_self]

end DataSet

/-- **The data set of a draft** has its keys in their order, and each object knows all the objects
    that refer to it. -/
theorem Document.Draft.Shows.content_eq {d : Draft} {ks : List Key} {f : Key → Primitive}
    (hd : d.Shows ks f) (hf : ∀ k ∈ ks, (f k).referrers = []) (b : Option Bounds) :
    d.content b = ⟨d.graph.referred (List.range ks.length),
      { entries := ks.zipIdx, bounds := b }⟩ := by
  have hkeys : ∀ i, (d.graph.get? i).map Primitive.key = ks[i]? := by
    intro i
    rw [hd.get?, Option.map_map]
    have hid : Primitive.key ∘ f = id := funext hd.key
    rw [hid, Option.map_id, id]
  have hnone : d.graph.referred [] = d.graph := by
    refine Graph.referred_nil fun i p hp => ?_
    rw [hd.get?, Option.map_eq_some_iff] at hp
    obtain ⟨k, hk, rfl⟩ := hp
    exact hf k (List.mem_of_getElem? hk)
  have hall := DataSet.addAll_range hd.nodup hkeys b (Nat.le_refl ks.length)
  rw [hnone, List.take_length] at hall
  unfold content
  rw [hd.entries, List.zipIdx_map_snd, ← List.range_eq_range', hall]

end MapQuery
