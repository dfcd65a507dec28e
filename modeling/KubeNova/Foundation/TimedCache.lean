import KubeNova.Foundation.JsObject

/-!
# A cache of results that age

Results are kept under a key with the time they were made at.  A result is given out again for as
long as it is young, and where there are too many the oldest are dropped.  What is in the cache of
results is the results for what is in the cache of arguments.
-/

namespace KubeNova.Foundation

structure CacheEntry (α : Type) where
  value : α
  timestamp : Int

abbrev TimedCache (α : Type) := List (String × CacheEntry α)

namespace TimedCache

variable {α β : Type}

def mapEntry (f : α → β) (entry : String × CacheEntry α) : String × CacheEntry β :=
  (entry.1, ⟨f entry.2.value, entry.2.timestamp⟩)

def map (f : α → β) (cache : TimedCache α) : TimedCache β := List.map (mapEntry f) cache

/-- The value under a key, while it is younger than `ttl`. -/
def young (ttl : Int) (cache : TimedCache α) (key : String) (now : Int) : Option α :=
  match cache.lookup key with
  | some entry => if now - entry.timestamp < ttl then some entry.value else none
  | none => none

def set (cache : TimedCache α) (key : String) (value : α) (now : Int) : TimedCache α :=
  setField cache key ⟨value, now⟩

def olderLe (left right : String × CacheEntry α) : Prop := left.2.timestamp ≤ right.2.timestamp

instance : DecidableRel (olderLe (α := α)) := fun _ _ => inferInstanceAs (Decidable (_ ≤ _))

/-- What is older than `ttl` is dropped, and then the oldest as far as there are over `size`. -/
def clean (ttl : Int) (size : Nat) (cache : TimedCache α) (now : Int) : TimedCache α :=
  let kept := List.filter (fun entry => !decide (ttl < now - entry.2.timestamp)) cache
  if kept.length ≤ size then kept
  else
    let oldest := (kept.insertionSort olderLe).take (kept.length - size)
    oldest.foldl (fun cache entry => removeField cache entry.1) kept

variable (f : α → β)

theorem lookup_map (cache : TimedCache α) (key : String) :
    (map f cache).lookup key = (cache.lookup key).map fun entry => ⟨f entry.value, entry.timestamp⟩
    := by
  induction cache with
  | nil => rfl
  | cons entry cache ih =>
      have hkey : (mapEntry f entry).1 = entry.1 := rfl
      rw [map, List.map_cons, List.lookup_cons, List.lookup_cons, hkey]
      cases key == entry.1 with
      | true => rfl
      | false => exact ih

theorem young_map (ttl : Int) (cache : TimedCache α) (key : String) (now : Int) :
    (map f cache).young ttl key now = (cache.young ttl key now).map f := by
  rw [young, young, lookup_map]
  cases cache.lookup key with
  | none => rfl
  | some entry =>
      show (if now - entry.timestamp < ttl then some (f entry.value) else none) =
        Option.map f (if now - entry.timestamp < ttl then some entry.value else none)
      split <;> rfl

theorem set_map (cache : TimedCache α) (key : String) (value : α) (now : Int) :
    (map f cache).set key (f value) now = map f (cache.set key value now) := by
  have hany : (map f cache).any (·.1 == key) = cache.any (·.1 == key) := by
    rw [map, List.any_map]
    rfl
  rw [set, set, setField, setField, hany]
  split
  · rw [map, map, List.map_map, List.map_map]
    apply List.map_congr_left
    intro entry _
    show (if entry.1 == key then _ else mapEntry f entry) =
      mapEntry f (if entry.1 == key then _ else entry)
    split <;> rfl
  · rw [map, map, List.map_append]
    rfl

theorem removeField_map (cache : TimedCache α) (key : String) :
    removeField (map f cache) key = map f (removeField cache key) := by
  rw [removeField, removeField, map, map, List.filter_map]
  rfl

theorem removeAll_map (cache oldest : TimedCache α) :
    (map f oldest).foldl (fun cache entry => removeField cache entry.1) (map f cache) =
      map f (oldest.foldl (fun cache entry => removeField cache entry.1) cache) := by
  induction oldest generalizing cache with
  | nil => rfl
  | cons entry oldest ih =>
      rw [List.foldl_cons, ← ih, ← removeField_map]
      rfl

theorem sort_map (cache : TimedCache α) :
    (map f cache).insertionSort olderLe = map f (cache.insertionSort olderLe) :=
  (List.map_insertionSort olderLe olderLe (mapEntry f) cache fun _ _ _ _ => Iff.rfl).symm

theorem clean_map (ttl : Int) (size : Nat) (cache : TimedCache α) (now : Int) :
    (map f cache).clean ttl size now = map f (cache.clean ttl size now) := by
  have hkept : List.filter (fun entry => !decide (ttl < now - entry.2.timestamp)) (map f cache) =
      map f (List.filter (fun entry => !decide (ttl < now - entry.2.timestamp)) cache) := by
    rw [map, map, List.filter_map]
    rfl
  rw [clean, clean, hkept]
  generalize List.filter (fun entry => !decide (ttl < now - entry.2.timestamp)) cache = kept
  have hlength : (map f kept).length = kept.length := List.length_map _
  simp only [hlength]
  split
  · rfl
  · have htake : (map f (kept.insertionSort olderLe)).take (kept.length - size) =
        map f ((kept.insertionSort olderLe).take (kept.length - size)) := by
      rw [map, map, List.map_take]
    rw [sort_map, htake, removeAll_map]

end TimedCache

/-! ## A function behind a cache -/

/-- A function whose results are kept under the keys of its arguments. -/
structure Memo (α β : Type) where
  key : α → String
  compute : α → β
  ttl : Int
  size : Nat

/-- A call begins, and where it has to compute its result comes later. -/
inductive MemoEvent (α : Type) where
  | call (argument : α) (now : Int)
  | settle (n : Nat) (stamped cleaned : Int)

structure MemoState (α β : Type) where
  cache : TimedCache β := []
  waiting : List α := []

structure Served (α β : Type) where
  argument : α
  value : β

namespace Memo

variable {α β : Type} (m : Memo α β)

def step (state : MemoState α β) : MemoEvent α → MemoState α β × List (Served α β)
  | .call argument now =>
      match state.cache.young m.ttl (m.key argument) now with
      | some value => (state, [⟨argument, value⟩])
      | none => ({ state with waiting := state.waiting ++ [argument] }, [])
  | .settle n stamped cleaned =>
      match state.waiting[n]? with
      | some argument =>
          ({ cache := (state.cache.set (m.key argument) (m.compute argument) stamped).clean
              m.ttl m.size cleaned
             waiting := state.waiting.eraseIdx n },
            [⟨argument, m.compute argument⟩])
      | none => (state, [])

def run (state : MemoState α β) : List (MemoEvent α) → List (Served α β)
  | [] => []
  | event :: rest => (m.step state event).2 ++ run (m.step state event).1 rest

/-- The cache of the arguments: who made a result is given out with it. -/
def origins : Memo α α := { m with compute := id }

def results (state : MemoState α α) : MemoState α β where
  cache := state.cache.map m.compute
  waiting := state.waiting

def result (served : Served α α) : Served α β := ⟨served.argument, m.compute served.value⟩

section Step

variable {m} {state : MemoState α β} {argument : α} {now stamped cleaned : Int} {n : Nat}

theorem step_hit {value : β} (h : state.cache.young m.ttl (m.key argument) now = some value) :
    m.step state (.call argument now) = (state, [⟨argument, value⟩]) := by
  simp only [step, h]

theorem step_miss (h : state.cache.young m.ttl (m.key argument) now = none) :
    m.step state (.call argument now) =
      ({ state with waiting := state.waiting ++ [argument] }, []) := by
  simp only [step, h]

theorem step_settle (h : state.waiting[n]? = some argument) :
    m.step state (.settle n stamped cleaned) =
      ({ cache := (state.cache.set (m.key argument) (m.compute argument) stamped).clean
          m.ttl m.size cleaned
         waiting := state.waiting.eraseIdx n },
        [⟨argument, m.compute argument⟩]) := by
  simp only [step, h]

theorem step_idle (h : state.waiting[n]? = none) :
    m.step state (.settle n stamped cleaned) = (state, []) := by
  simp only [step, h]

end Step

theorem step_results (state : MemoState α α) (event : MemoEvent α) :
    m.step (m.results state) event =
      (m.results (m.origins.step state event).1, (m.origins.step state event).2.map m.result) := by
  cases event with
  | call argument now =>
      have hyoung : (m.results state).cache.young m.ttl (m.key argument) now =
          (state.cache.young m.ttl (m.key argument) now).map m.compute :=
        TimedCache.young_map m.compute _ _ _ _
      cases hvalue : state.cache.young m.ttl (m.key argument) now with
      | none =>
          rw [hvalue] at hyoung
          rw [step_miss hyoung, step_miss (m := m.origins) hvalue]
          rfl
      | some value =>
          rw [hvalue] at hyoung
          rw [step_hit hyoung, step_hit (m := m.origins) hvalue]
          rfl
  | settle n stamped cleaned =>
      cases hwaiting : state.waiting[n]? with
      | none =>
          rw [@step_idle _ _ _ (m.results state) _ _ _ hwaiting, step_idle (m := m.origins) hwaiting]
          rfl
      | some argument =>
          have hcache : ((m.results state).cache.set (m.key argument) (m.compute argument)
              stamped).clean m.ttl m.size cleaned = TimedCache.map m.compute
                ((state.cache.set (m.key argument) argument stamped).clean m.ttl m.size cleaned) := by
            rw [results, TimedCache.set_map, TimedCache.clean_map]
          rw [@step_settle _ _ _ (m.results state) _ _ _ _ hwaiting,
            step_settle (m := m.origins) hwaiting, hcache]
          rfl

theorem run_results (state : MemoState α α) (events : List (MemoEvent α)) :
    m.run (m.results state) events = (m.origins.run state events).map m.result := by
  induction events generalizing state with
  | nil => rfl
  | cons event rest ih =>
      rw [run, run, step_results, List.map_append]
      dsimp only
      rw [ih]

end Memo

end KubeNova.Foundation
