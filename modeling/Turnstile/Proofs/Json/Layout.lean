import Turnstile.Proofs.Json.Decoding
import Turnstile.Proofs.Json.Places

/-!
# Objects that are taken apart and put together again

A layout says what becomes of the members of an object on that way: how the value of each is
carried over, under which key it stands afterwards, which members are left out where they are
`null`, and which are put in where they are missing.

While the members are taken in one after the other, a draft holds what will be written.  It follows
the members taken in so far (`Follows`), each further member keeps that (`Taken`), and so it holds
of the whole object in the end.

* `Layout.Carries` — nothing but what the layout names is lost, added or changed;
* `foldObject_follows` — what has been read follows the object;
* `foldObject_carries` — what is written of it carries over the object;
* `Layout.Carries.hasText` — with values that keep their strings, the object keeps its strings.
-/

set_option autoImplicit false

namespace Turnstile.Json

open Decoder

/-- What becomes of the members of an object that is taken apart and put together again. -/
structure Layout where
  /-- How the value under a key and what it becomes go together. -/
  value : String → Json → Json → Prop := fun _ x y => y = x
  /-- The key under which a member is written. -/
  written : String → String := id
  /-- The keys under which `null` is left out. -/
  optional : List String := []
  /-- The members that are put in where they are missing. -/
  defaults : Members := []

namespace Layout

/-- The members `ms` are carried over into `ws`: each is there, but for `null` where it is left
out; and no other is there but the defaults. -/
structure CarriesMembers (l : Layout) (ms ws : Members) : Prop where
  kept : ∀ k x, find? k ms = some x →
    (k ∈ l.optional ∧ x = .null ∧ find? (l.written k) ws = none) ∨
      ∃ y, find? (l.written k) ws = some y ∧ l.value k x y
  added : ∀ k y, find? k ws = some y →
    (∃ k' x, find? k' ms = some x ∧ l.written k' = k) ∨ (k, y) ∈ l.defaults

/-- The object `v` is carried over into the object `w`. -/
def Carries (l : Layout) (v w : Json) : Prop :=
  ∃ ms ws, v = .object ms ∧ w = .object ws ∧ l.CarriesMembers ms ws

/-- `v` is an array and `w` one of as many items, which go together one by one. -/
def Itemwise (value : Json → Json → Prop) (v w : Json) : Prop :=
  ∃ xs ys, v = .array xs ∧ w = .array ys ∧ List.Forall₂ value xs ys

/-- Items that go together one by one do so in another way too if each item of `v` lets it. -/
theorem Itemwise.mono {value value' : Json → Json → Prop} {v w : Json}
    (h : ∀ x ∈ v.items?.getD [], ∀ y, value x y → value' x y) (hitems : Itemwise value v w) :
    Itemwise value' v w := by
  obtain ⟨xs, ys, rfl, rfl, hboth⟩ := hitems
  refine ⟨xs, ys, rfl, rfl, ?_⟩
  exact ((List.forall₂_and_left _ _).mpr ⟨h, hboth⟩).imp fun x y hxy => hxy.1 y hxy.2

/-- Items that go together one by one in two ways do so in both at once. -/
theorem Itemwise.and {value value' : Json → Json → Prop} {v w : Json}
    (hitems : Itemwise value v w) (hitems' : Itemwise value' v w) :
    Itemwise (fun x y => value x y ∧ value' x y) v w := by
  obtain ⟨xs, ys, rfl, rfl, hboth⟩ := hitems
  obtain ⟨_, _, heq, heq', hboth'⟩ := hitems'
  cases heq
  cases heq'
  rw [List.forall₂_iff_get] at hboth hboth'
  refine ⟨xs, ys, rfl, rfl, List.forall₂_iff_get.mpr ⟨hboth.1, fun i hi hi' => ?_⟩⟩
  exact ⟨hboth.2 i hi hi', hboth'.2 i hi hi'⟩

/-- Each item goes together with some item. -/
theorem Itemwise.exists_of_mem {value : Json → Json → Prop} {v w x : Json}
    (hitems : Itemwise value v w) (hx : x ∈ v.items?.getD []) : ∃ y, value x y := by
  obtain ⟨xs, ys, rfl, rfl, hboth⟩ := hitems
  have hmem : x ∈ xs := hx
  obtain ⟨i, hi, rfl⟩ := List.mem_iff_getElem.mp hmem
  rw [List.forall₂_iff_get] at hboth
  exact ⟨_, hboth.2 i hi (hboth.1 ▸ hi)⟩

theorem Itemwise.hasText {value : Json → Json → Prop} {v w : Json} {s : String}
    (h : ∀ x y, value x y → x.HasText s → y.HasText s) (hitems : Itemwise value v w)
    (hs : v.HasText s) : w.HasText s := by
  obtain ⟨xs, ys, rfl, rfl, hboth⟩ := hitems
  obtain ⟨x, hx, hxs⟩ := hasText_array.mp hs
  obtain ⟨i, hi⟩ := List.mem_iff_getElem?.mp hx
  rw [List.forall₂_iff_get] at hboth
  obtain ⟨hlt, rfl⟩ := List.getElem?_eq_some_iff.mp hi
  have hlt' : i < ys.length := hboth.1 ▸ hlt
  exact hasText_array.mpr ⟨ys[i], List.getElem_mem hlt', h _ _ (hboth.2 i hlt hlt') hxs⟩

/-- Where the values keep their strings, the object does. -/
theorem Carries.hasText {l : Layout} {v w : Json} {s : String}
    (h : ∀ k x y, l.value k x y → x.HasText s → y.HasText s) (hcarries : l.Carries v w)
    (hs : v.HasText s) : w.HasText s := by
  obtain ⟨ms, ws, rfl, rfl, hmembers⟩ := hcarries
  obtain ⟨k, x, hk, hx⟩ := hasText_object.mp hs
  rcases hmembers.kept k x hk with ⟨-, rfl, -⟩ | ⟨y, hy, hvalue⟩
  · exact absurd hx (not_hasText_null s)
  · exact hasText_object.mpr ⟨l.written k, y, hy, h k x y hvalue hx⟩

/-! ## Drafts -/

/-- What a draft will write under a key: `none` if it has read no such member, `some none` if it
has and leaves it out. -/
abbrev Slots := String → Option (Option Json)

/-- The fields of a draft, each with its key and its slot. -/
abbrev Fields := List (String × Option (Option Json))

/-- The slots of a draft that has fields for some keys and keeps all other members. -/
def slots (extra : Members) : Fields → Slots
  | [], k => (find? k extra).map some
  | (k', slot) :: fields, k => if k = k' then slot else slots extra fields k

variable {l : Layout} {key : String} {x : Json} {ms : Members} {held held' : Slots}

/-- What a value under a key may become; left out it may only be where it is `null`. -/
def Becomes (l : Layout) (k : String) (x : Json) : Option Json → Prop
  | none => k ∈ l.optional ∧ x = .null
  | some y => l.value k x y

/-- A draft follows the members that it has read: it holds what became of them, and nothing
else. -/
structure Follows (l : Layout) (held : Slots) (ms : Members) : Prop where
  read : ∀ k x, find? k ms = some x → ∃ o, held (l.written k) = some o ∧ l.Becomes k x o
  only : ∀ k o, held k = some o → ∃ k' x, find? k' ms = some x ∧ l.written k' = k

/-- What one more member changes: its own slot. That was empty if the member can be written under
another key too. -/
structure Taken (l : Layout) (key : String) (x : Json) (held held' : Slots) : Prop where
  fills : ∃ o, held' (l.written key) = some o ∧ l.Becomes key x o
  frame : ∀ k, k ≠ l.written key → held' k = held k
  fresh : held (l.written key) = none ∨ ∀ k, l.written k = l.written key → k = key

/-- It is only looked up what the members are. -/
theorem Follows.congr {ms' : Members} (h : l.Follows held ms)
    (hms : ∀ k, find? k ms' = find? k ms) : l.Follows held ms' := by
  refine ⟨fun k x hk => h.read k x (hms k ▸ hk), fun k o ho => ?_⟩
  obtain ⟨k', x, hk', hwritten⟩ := h.only k o ho
  exact ⟨k', x, (hms k').trans hk', hwritten⟩

/-- One more member keeps that the draft follows what it has read. -/
theorem Follows.taken (h : l.Follows held ms) (ht : l.Taken key x held held') :
    l.Follows held' (insert key x ms) := by
  constructor
  · intro k y hk
    rw [find?_insert] at hk
    split at hk
    · rename_i heq
      cases hk
      rw [heq]
      exact ht.fills
    · rename_i hne
      obtain ⟨o, ho, hbecomes⟩ := h.read k y hk
      have hother : l.written k ≠ l.written key := by
        intro heq
        rcases ht.fresh with hempty | honly
        · rw [heq, hempty] at ho
          cases ho
        · exact hne (honly k heq)
      exact ⟨o, (ht.frame _ hother).trans ho, hbecomes⟩
  · intro k o ho
    by_cases hk : k = l.written key
    · exact ⟨key, x, by rw [find?_insert, if_pos rfl], hk.symm⟩
    · rw [ht.frame k hk] at ho
      obtain ⟨k', y, hk', hwritten⟩ := h.only k o ho
      by_cases hkey : k' = key
      · exact ⟨key, x, by rw [find?_insert, if_pos rfl], hkey ▸ hwritten⟩
      · exact ⟨k', y, by rw [find?_insert, if_neg hkey, hk'], hwritten⟩

/-- The members that are kept as they are have keys without a field, which ascend. -/
structure Rest (known : List String) (extra : Members) : Prop where
  unknown : ∀ m ∈ extra, m.1 ∉ known
  keys : (extra.map Prod.fst).Pairwise (· < ·)

theorem rest_nil (known : List String) : Rest known [] :=
  ⟨fun _ h => (nomatch h), List.Pairwise.nil⟩

theorem Rest.insert {known : List String} {extra : Members} (h : Rest known extra)
    (hkey : key ∉ known) : Rest known (insert key x extra) := by
  refine ⟨fun m hm => ?_, insert_ascending h.keys⟩
  rcases mem_insert hm with rfl | hm
  · exact hkey
  · exact h.unknown m hm

/-- A member with a field fills it with what was read, if it was empty. -/
theorem taken_once {α : Type} {slot slot' : Option α} {r : Except DecodeError α}
    {write : α → Option Json} {k : String} (hread : once slot r = .ok slot')
    (hwritten : l.written key = k) (hheld : held k = slot.map write)
    (hheld' : held' k = slot'.map write) (hframe : ∀ k', k' ≠ k → held' k' = held k')
    (hbecomes : ∀ a, r = .ok a → l.Becomes key x (write a)) : l.Taken key x held held' := by
  obtain ⟨a, ha, rfl⟩ := once_ok hread
  rw [once_empty hread] at hheld
  subst hwritten
  exact ⟨⟨write a, hheld', hbecomes a ha⟩, hframe, .inl hheld⟩

theorem slots_eq_extra {extra : Members} {k : String} :
    ∀ {fields : Fields}, k ∉ fields.map Prod.fst →
      slots extra fields k = (find? k extra).map some
  | [], _ => rfl
  | (k', _) :: fields, h => by
    rw [List.map_cons, List.mem_cons, not_or] at h
    rw [slots, if_neg h.1]
    exact slots_eq_extra h.2

/-- Under a key with a field nothing else counts. -/
theorem slots_of_field {extra extra' : Members} {k : String} :
    ∀ {fields : Fields}, k ∈ fields.map Prod.fst →
      slots extra fields k = slots extra' fields k
  | (k', _) :: fields, h => by
    rw [slots, slots]
    by_cases hk : k = k'
    · rw [if_pos hk, if_pos hk]
    · rw [if_neg hk, if_neg hk]
      exact slots_of_field ((List.mem_cons.mp h).resolve_left hk)

/-- One more member without a field changes nothing in the fields. -/
theorem slots_insert {extra : Members} {k : String} (hk : k ≠ key) :
    ∀ fields : Fields,
      slots (Json.insert key x extra) fields k = slots extra fields k
  | [] => by rw [slots, slots, find?_insert, if_neg hk]
  | (_, _) :: fields => by rw [slots, slots, slots_insert hk fields]

/-- A member without a field is kept as it is. -/
theorem taken_rest {fields : Fields} {extra : Members}
    (hwritten : l.written key = key) (honly : ∀ k, l.written k = key → k = key)
    (hfields : key ∉ fields.map Prod.fst) (hvalue : l.value key x x) :
    l.Taken key x (slots extra fields) (slots (Json.insert key x extra) fields) := by
  refine ⟨⟨some x, ?_, hvalue⟩, fun k hk => ?_, .inr fun k hk => ?_⟩
  · rw [hwritten, slots_eq_extra hfields, find?_insert, if_pos rfl]
    rfl
  · rw [hwritten] at hk
    exact slots_insert hk fields
  · exact honly k (hk.trans hwritten)

theorem Rest.find?_eq_none {known : List String} {extra : Members} (h : Rest known extra)
    {k : String} (hk : k ∈ known) : find? k extra = none :=
  Json.find?_eq_none fun m hm heq => h.unknown m hm (heq ▸ hk)

/-- What is written of a draft: the members it keeps, and of its fields what they hold, or the
default where they were not filled. -/
def filled (l : Layout) (fields : Fields) : Members :=
  fields.filterMap fun f => (f.2.getD (find? f.1 l.defaults)).map fun y => (f.1, y)

theorem filled_cons (l : Layout) (k : String) (slot : Option (Option Json))
    (fields : Fields) :
    l.filled ((k, slot) :: fields) = match slot.getD (find? k l.defaults) with
      | some y => (k, y) :: l.filled fields
      | none => l.filled fields := by
  unfold filled
  rw [List.filterMap_cons]
  cases slot.getD (find? k l.defaults) <;> rfl

/-- What the fields write is put beside what was there. -/
theorem find?_foldl_filled (k : String) :
    ∀ (fields : Fields) (acc : Members),
      (fields.map Prod.fst).Nodup → (∀ f ∈ fields, find? f.1 acc = none) →
      find? k ((l.filled fields).foldl (fun acc m => Json.insert m.1 m.2 acc) acc) =
        if k ∈ fields.map Prod.fst then (slots [] fields k).getD (find? k l.defaults)
        else find? k acc
  | [], acc, _, _ => by simp [filled]
  | (k', slot) :: fields, acc, hnodup, hfresh => by
    rw [List.map_cons, List.nodup_cons] at hnodup
    have hnext : ∀ acc', (∀ j, j ≠ k' → find? j acc' = find? j acc) →
        ∀ f ∈ fields, find? f.1 acc' = none := by
      intro acc' hacc' f hf
      have hmem : f.1 ∈ fields.map Prod.fst := List.mem_map_of_mem hf
      have hne : f.1 ≠ k' := fun heq => hnodup.1 (heq ▸ hmem)
      rw [hacc' f.1 hne]
      exact hfresh f (List.mem_cons_of_mem _ hf)
    have hlater : ∀ acc', (∀ j, j ≠ k' → find? j acc' = find? j acc) →
        find? k' acc' = slot.getD (find? k' l.defaults) →
        find? k ((l.filled fields).foldl (fun acc m => Json.insert m.1 m.2 acc) acc') =
          if k ∈ k' :: fields.map Prod.fst then
            (slots [] ((k', slot) :: fields) k).getD (find? k l.defaults)
          else find? k acc := by
      intro acc' hacc' hk'
      rw [find?_foldl_filled k fields acc' hnodup.2 (hnext acc' hacc')]
      by_cases hk : k = k'
      · subst hk
        rw [if_neg hnodup.1, if_pos List.mem_cons_self, slots, if_pos rfl, hk']
      · simp only [slots, List.mem_cons, hk, false_or, hacc' k hk, if_false]
    rw [filled_cons, List.map_cons]
    cases hslot : slot.getD (find? k' l.defaults) with
    | none => exact hlater acc (fun _ _ => rfl) (by rw [hslot]; exact hfresh _ List.mem_cons_self)
    | some y =>
      refine hlater (Json.insert k' y acc) (fun j hj => ?_) ?_
      · rw [find?_insert, if_neg hj]
      · rw [find?_insert, if_pos rfl, hslot]

/-- What is written of a draft carries over what it has read. -/
theorem Follows.carries {fields : Fields} {extra : Members}
    {known : List String} (h : l.Follows (slots extra fields) ms) (hrest : Rest known extra)
    (hknown : fields.map Prod.fst = known) (hnodup : known.Nodup)
    (hdefaults : ∀ m ∈ l.defaults, m.1 ∈ known) :
    l.Carries (.object ms) (.record (extra ++ l.filled fields)) := by
  subst hknown
  have hwritten : ∀ k, find? k (ofList (extra ++ l.filled fields)) =
      (slots extra fields k).getD (find? k l.defaults) := by
    intro k
    have hfresh : ∀ f ∈ fields, find? f.1 extra = none := fun f hf =>
      hrest.find?_eq_none (List.mem_map_of_mem hf)
    rw [ofList_append, ofList_of_ascending hrest.keys,
      find?_foldl_filled k fields extra hnodup hfresh]
    split
    · rename_i hk
      rw [slots_of_field hk]
    · rename_i hk
      have hnone : find? k l.defaults = none :=
        Json.find?_eq_none fun m hm heq => hk (heq ▸ hdefaults m hm)
      rw [slots_eq_extra hk, hnone]
      cases find? k extra <;> rfl
  refine ⟨ms, _, rfl, rfl, fun k x hk => ?_, fun k y hk => ?_⟩
  · obtain ⟨o, ho, hbecomes⟩ := h.read k x hk
    have hfind := hwritten (l.written k)
    rw [ho, Option.getD_some] at hfind
    cases o with
    | none => exact .inl ⟨hbecomes.1, hbecomes.2, hfind⟩
    | some y => exact .inr ⟨y, hfind, hbecomes⟩
  · rw [hwritten k] at hk
    cases ho : slots extra fields k with
    | none =>
      rw [ho, Option.getD_none] at hk
      exact .inr (mem_of_find? hk)
    | some o => exact .inl (h.only k o ho)

end Layout

open Layout

/-! ## Reading -/

section Reading

variable {σ α : Type} {l : Layout} {take : Taking σ} {held : σ → Slots} {good : σ → Prop}
  {budget : Nat} {t : Tree}

/-- Whatever each member keeps, all members keep: the draft follows those that it does not pass
over. -/
theorem Decoder.foldMembers_follows (kept : String → Bool)
    (hstep : ∀ key t x d d', good d → t.toJson? budget = some x → take budget key t d = .ok d' →
      good d' ∧ (kept key = true → l.Taken key x (held d) (held d')) ∧
        (kept key = false → held d' = held d)) :
    ∀ (fs : List (Option String × Tree)) (d d' : σ) (acc ms : Members), good d →
      l.Follows (held d) (acc.filter fun m => kept m.1) → foldMembers take budget fs d = .ok d' →
      membersToJson? budget acc fs = some ms →
      good d' ∧ l.Follows (held d') (ms.filter fun m => kept m.1)
  | [], _, _, _, _, hgood, hfollows, hfold, hms => by
    cases hfold
    cases hms
    exact ⟨hgood, hfollows⟩
  | (none, _) :: _, _, _, _, _, _, _, hfold, _ => nomatch hfold
  | (some k, t) :: r, d, d', acc, ms, hgood, hfollows, hfold, hms => by
    rw [foldMembers] at hfold
    rw [membersToJson?] at hms
    split at hfold
    · cases hfold
    · rename_i d₁ htake
      cases hx : t.toJson? budget with
      | none => rw [hx] at hms; cases hms
      | some x =>
        rw [hx] at hms
        obtain ⟨hgood₁, htaken, hpassed⟩ := hstep k t x d d₁ hgood hx htake
        refine foldMembers_follows kept hstep r d₁ d' (insert k x acc) ms hgood₁ ?_ hfold hms
        cases hk : kept k with
        | true =>
          refine (hfollows.taken (htaken hk)).congr fun j => ?_
          rw [find?_insert, find?_filter, find?_filter, find?_insert]
          by_cases hj : j = k
          · rw [if_pos hj, if_pos (hj ▸ hk), if_pos hj]
          · rw [if_neg hj, if_neg hj]
        | false =>
          rw [hpassed hk]
          refine hfollows.congr fun j => ?_
          rw [find?_filter, find?_filter, find?_insert]
          by_cases hj : j = k
          · rw [hj, hk, if_neg Bool.false_ne_true, if_neg Bool.false_ne_true]
          · rw [if_neg hj]

theorem Layout.follows_nil {held : Slots} (h : ∀ k, held k = none) : l.Follows held [] :=
  ⟨fun _ _ hk => (nomatch hk), fun k _ ho => nomatch (h k).symm.trans ho⟩

/-- What has been read of an object follows its members. -/
theorem Decoder.foldObject_follows {start d : σ} {v : Json}
    (hstep : ∀ key t x d d', good d → t.toJson? (budget - 1) = some x →
      take (budget - 1) key t d = .ok d' → good d' ∧ l.Taken key x (held d) (held d'))
    (hgood : good start) (hempty : ∀ k, held start k = none)
    (hfold : foldObject take start budget t = .ok d) (hv : t.toJson? budget = some v) :
    ∃ ms, v = .object ms ∧ good d ∧ l.Follows (held d) ms := by
  obtain ⟨fs, ms, rfl, hms, hmembers⟩ := foldObject_ok hfold hv
  have hall := foldMembers_follows (fun _ => true)
    (fun key t x d d' hd hx h =>
      ⟨(hstep key t x d d' hd hx h).1, fun _ => (hstep key t x d d' hd hx h).2, nofun⟩)
    fs start d [] ms hgood (follows_nil hempty) hmembers hms
  rw [List.filter_true] at hall
  exact ⟨ms, rfl, hall⟩

/-- What is written of a structure that was read carries over the object. -/
theorem Decoder.foldObject_carries {known : List String} {extra : σ → Members}
    {fields : σ → Fields} {start d : σ} {v : Json}
    (hstep : ∀ key t x d d', Rest known (extra d) → t.toJson? (budget - 1) = some x →
      take (budget - 1) key t d = .ok d' → Rest known (extra d') ∧
        l.Taken key x (slots (extra d) (fields d)) (slots (extra d') (fields d')))
    (hextra : extra start = []) (hempty : ∀ k, slots [] (fields start) k = none)
    (hknown : ∀ d, (fields d).map Prod.fst = known) (hnodup : known.Nodup)
    (hdefaults : ∀ m ∈ l.defaults, m.1 ∈ known)
    (hfold : foldObject take start budget t = .ok d) (hv : t.toJson? budget = some v) :
    l.Carries v (.record (extra d ++ l.filled (fields d))) := by
  obtain ⟨ms, rfl, hrest, hfollows⟩ := foldObject_follows hstep (hextra ▸ rest_nil known)
    (fun k => hextra ▸ hempty k) hfold hv
  exact hfollows.carries hrest (hknown d) hnodup hdefaults

theorem Decoder.items_forall₂ {d : Decoder α} {R : Json → α → Prop}
    (hd : ∀ t x a, t.toJson? budget = some x → d budget t = .ok a → R x a) :
    ∀ (ts : List Tree) (xs : List Json) (as : List α), itemsToJson? budget ts = some xs →
      items d budget ts = .ok as → List.Forall₂ R xs as
  | [], _, _, hxs, has => by
    cases hxs
    cases has
    exact .nil
  | t :: r, xs, as, hxs, has => by
    rw [itemsToJson?] at hxs
    rw [items] at has
    cases hx : t.toJson? budget with
    | none => rw [hx] at hxs; cases hxs
    | some x =>
      rw [hx] at hxs
      obtain ⟨xs', hxs', rfl⟩ := Option.map_eq_some_iff.mp hxs
      split at has
      · cases has
      · rename_i a ha
        split at has
        · cases has
        · rename_i as' has'
          cases has
          exact .cons (hd t x a hx ha) (items_forall₂ hd r xs' as' hxs' has')

/-- Where `null` is read as nothing, it is left out. -/
theorem Layout.becomes_optional {d : Decoder α} {o : Option α} {key : String} {x : Json}
    (write : α → Json) (hkey : key ∈ l.optional) (hx : t.toJson? budget = some x)
    (h : Decoder.optional d budget t = .ok o)
    (hd : ∀ a, d budget t = .ok a → l.value key x (write a)) :
    l.Becomes key x (o.map write) := by
  rcases optional_ok h hx with ⟨rfl, rfl⟩ | ⟨a, rfl, ha⟩
  · exact ⟨hkey, rfl⟩
  · exact hd a ha

/-- A list is read item by item. -/
theorem Decoder.list_itemwise {d : Decoder α} {write : α → Json} {R : Json → Json → Prop}
    {x : Json} {as : List α}
    (hd : ∀ t x a, t.toJson? (budget - 1) = some x → d (budget - 1) t = .ok a → R x (write a))
    (hx : t.toJson? budget = some x) (h : list d budget t = .ok as) :
    Itemwise R x (.array (as.map write)) := by
  unfold list at h
  split at h
  · split at h
    · cases h
    · rename_i ts hbudget
      rw [Tree.toJson?, if_neg hbudget] at hx
      obtain ⟨xs, hxs, rfl⟩ := Option.map_eq_some_iff.mp hx
      refine ⟨xs, as.map write, rfl, rfl, ?_⟩
      rw [List.forall₂_map_right_iff]
      exact items_forall₂ hd ts xs as hxs h
  · cases h

end Reading

end Turnstile.Json
