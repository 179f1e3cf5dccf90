import Blueprint.Dictionary
import Mathlib.Data.List.Dedup

/-!
# Dictionaries and their keys

* `putNew_eq`: a further entry comes last, and one whose key has a value changes nothing.
* `ofFirst`: the dictionary of entries in which the first entry of a key counts;
  **`keys_ofFirst`**: its keys are the keys of the entries by first appearance, each once.
* `get?_ofFirst`: its values are those of the first entries.
* `putAll`: entries put into a dictionary one by one; `LastEntry`: an entry that no later one of its
  key follows. **`keys_putAll`**, **`get?_putAll_eq_some`**: the keys come by first appearance, and
  the last entry of each counts.
* `without`: a dictionary without a key; `without_ofFirst`: the other keys keep their places.
-/

namespace Blueprint.Dictionary

variable {α β : Type}

@[simp] theorem get?_nil (k : String) : get? k ([] : Dictionary α) = none := rfl

@[simp] theorem keys_nil : keys ([] : Dictionary α) = [] := rfl

@[simp] theorem keys_cons (k : String) (v : α) (d : Dictionary α) :
    keys ((k, v) :: d) = k :: keys d := rfl

theorem keys_append (d e : Dictionary α) : keys (d ++ e) = keys d ++ keys e := by
  simp [keys]

theorem get?_cons (k : String) (p : String × α) (d : Dictionary α) :
    get? k (p :: d) = if p.1 = k then some p.2 else get? k d := rfl

theorem get?_append (k : String) (d e : Dictionary α) :
    get? k (d ++ e) = (get? k d).or (get? k e) := by
  induction d with
  | nil => rfl
  | cons p d ih =>
    rw [List.cons_append, get?_cons, get?_cons, ih]
    split <;> rfl

theorem get?_eq_none {k : String} {d : Dictionary α} : get? k d = none ↔ k ∉ keys d := by
  induction d with
  | nil => simp
  | cons p d ih =>
    obtain ⟨l, v⟩ := p
    rw [get?_cons, keys_cons, List.mem_cons, not_or, ← ih]
    by_cases h : l = k
    · simp [h]
    · simp [h, Ne.symm h]

theorem isSome_get? {k : String} {d : Dictionary α} : (get? k d).isSome ↔ k ∈ keys d := by
  rw [← Option.ne_none_iff_isSome, Ne, get?_eq_none, not_not]

theorem mem_keys_of_get? {k : String} {v : α} {d : Dictionary α} (h : get? k d = some v) :
    k ∈ keys d :=
  isSome_get?.mp (by rw [h]; rfl)

theorem mem_of_get? {k : String} {v : α} {d : Dictionary α} (h : get? k d = some v) :
    (k, v) ∈ d := by
  induction d with
  | nil => simp at h
  | cons p d ih =>
    rw [get?_cons] at h
    split at h
    · rename_i hk
      obtain rfl := Option.some.inj h
      exact hk ▸ List.mem_cons_self
    · exact List.mem_cons_of_mem _ (ih h)

theorem get?_of_mem {k : String} {v : α} {d : Dictionary α} (hd : (keys d).Nodup) (h : (k, v) ∈ d) :
    get? k d = some v := by
  induction d with
  | nil => simp at h
  | cons p d ih =>
    obtain ⟨l, w⟩ := p
    rw [keys_cons, List.nodup_cons] at hd
    rw [get?_cons]
    rcases List.mem_cons.mp h with h | h
    · simp only [Prod.mk.injEq] at h
      rw [if_pos h.1.symm, h.2]
    · have hk : k ∈ keys d := List.mem_map_of_mem (f := (·.1)) h
      have hl : l ≠ k := fun e => hd.1 (e ▸ hk)
      rw [if_neg hl]
      exact ih hd.2 h

theorem get?_map (f : String → α → β) (k : String) (d : Dictionary α) :
    get? k (d.map fun p => (p.1, f p.1 p.2)) = (get? k d).map (f k) := by
  induction d with
  | nil => rfl
  | cons p d ih =>
    rw [List.map_cons, get?_cons, get?_cons, ih]
    split
    · rename_i h
      rw [← h]; rfl
    · rfl

/-! ## The first entry of a key -/

theorem putNew_eq (k : String) (v : α) (d : Dictionary α) :
    putNew k v d = if k ∈ keys d then d else d ++ [(k, v)] := by
  induction d with
  | nil => rfl
  | cons p d ih =>
    obtain ⟨l, w⟩ := p
    rw [putNew, ih, keys_cons]
    by_cases h : l = k
    · simp [h]
    · by_cases hk : k ∈ keys d <;> simp [h, Ne.symm h, hk]

theorem get?_putNew (k l : String) (v : α) (d : Dictionary α) :
    get? l (putNew k v d) = (get? l d).or (get? l [(k, v)]) := by
  rw [putNew_eq]
  split
  · rename_i h
    by_cases hl : k = l
    · obtain ⟨w, hw⟩ := Option.isSome_iff_exists.mp (isSome_get?.mpr h)
      rw [← hl, hw, Option.some_or]
    · simp [get?_cons, hl]
  · rw [get?_append]

/-- The entries added to a dictionary one by one, each unless its key has a value. -/
def putAllNew (entries : List (String × α)) (d : Dictionary α) : Dictionary α :=
  entries.foldl (fun d p => putNew p.1 p.2 d) d

@[simp] theorem putAllNew_nil (d : Dictionary α) : putAllNew [] d = d := rfl

@[simp] theorem putAllNew_cons (p : String × α) (entries : List (String × α)) (d : Dictionary α) :
    putAllNew (p :: entries) d = putAllNew entries (putNew p.1 p.2 d) := rfl

theorem get?_putAllNew (k : String) (entries : List (String × α)) (d : Dictionary α) :
    get? k (putAllNew entries d) = (get? k d).or (get? k entries) := by
  induction entries generalizing d with
  | nil => simp
  | cons p entries ih =>
    rw [putAllNew_cons, ih, get?_putNew, Option.or_assoc, ← get?_append]
    rfl

/-- **The keys of a dictionary with further entries**: the new ones follow by first appearance. -/
theorem keys_putAllNew (entries : List (String × α)) (d : Dictionary α) :
    keys (putAllNew entries d) = keys d ++ ((keys entries).filter (· ∉ keys d)).eraseDups := by
  induction entries generalizing d with
  | nil => simp
  | cons p entries ih =>
    obtain ⟨k, v⟩ := p
    rw [putAllNew_cons, ih, putNew_eq]
    by_cases h : k ∈ keys d
    · simp [h]
    · rw [if_neg h, keys_append, keys_cons, keys_nil, keys_cons,
        List.filter_cons_of_pos (by simpa using h), List.eraseDups_cons, List.append_assoc,
        List.filter_filter, List.singleton_append]
      congr 3
      apply List.filter_congr
      intro l _
      by_cases hl : l = k <;> simp [hl]

theorem nodup_keys_putNew {k : String} {v : α} {d : Dictionary α} (hd : (keys d).Nodup) :
    (keys (putNew k v d)).Nodup := by
  rw [putNew_eq]
  split
  · exact hd
  · rename_i h
    rw [keys_append, keys_cons, keys_nil, ← List.concat_eq_append]
    exact hd.concat h

theorem nodup_keys_putAllNew (entries : List (String × α)) {d : Dictionary α}
    (hd : (keys d).Nodup) : (keys (putAllNew entries d)).Nodup := by
  induction entries generalizing d with
  | nil => exact hd
  | cons p entries ih => exact ih (nodup_keys_putNew hd)

/-- The dictionary of entries in which the first entry of a key counts. -/
def ofFirst (entries : List (String × α)) : Dictionary α := putAllNew entries []

theorem keys_ofFirst (entries : List (String × α)) :
    keys (ofFirst entries) = (keys entries).eraseDups := by
  rw [ofFirst, keys_putAllNew]
  simp

theorem get?_ofFirst (k : String) (entries : List (String × α)) :
    get? k (ofFirst entries) = get? k entries := by
  rw [ofFirst, get?_putAllNew]
  rfl

theorem nodup_keys_ofFirst (entries : List (String × α)) : (keys (ofFirst entries)).Nodup :=
  nodup_keys_putAllNew entries List.nodup_nil

/-! ## The last entry of a key -/

/-- An entry of a key that no later one of the key follows. -/
def LastEntry (entries : List (String × α)) (k : String) (v : α) : Prop :=
  ∃ before after, entries = before ++ (k, v) :: after ∧ k ∉ keys after

theorem get?_eq_some {k : String} {v : α} {d : Dictionary α} :
    get? k d = some v ↔ ∃ before after, d = before ++ (k, v) :: after ∧ k ∉ keys before := by
  constructor
  · intro h
    induction d with
    | nil => exact nomatch h
    | cons p d ih =>
      obtain ⟨l, w⟩ := p
      by_cases hl : l = k
      · rw [get?_cons, if_pos hl] at h
        obtain rfl := Option.some.inj h
        exact ⟨[], d, by simp [hl], by simp⟩
      · rw [get?_cons, if_neg hl] at h
        obtain ⟨before, after, rfl, hbefore⟩ := ih h
        exact ⟨(l, w) :: before, after, rfl, by simp [hbefore, Ne.symm hl]⟩
  · rintro ⟨before, after, rfl, hbefore⟩
    rw [get?_append, get?_eq_none.mpr hbefore, Option.none_or, get?_cons, if_pos rfl]

theorem get?_reverse_eq_some {k : String} {v : α} {entries : List (String × α)} :
    get? k entries.reverse = some v ↔ LastEntry entries k v := by
  rw [get?_eq_some, LastEntry]
  constructor
  · rintro ⟨before, after, h, hbefore⟩
    refine ⟨after.reverse, before.reverse, ?_, by simpa [keys] using hbefore⟩
    rw [← List.reverse_reverse entries, h]
    simp
  · rintro ⟨before, after, rfl, hafter⟩
    exact ⟨after.reverse, before.reverse, by simp, by simpa [keys] using hafter⟩

theorem keys_putNew (k : String) (v : α) (d : Dictionary α) :
    keys (putNew k v d) = if k ∈ keys d then keys d else keys d ++ [k] := by
  rw [putNew_eq]
  split
  · rfl
  · rw [keys_append, keys_cons, keys_nil]

theorem keys_put (k : String) (v : α) (d : Dictionary α) : keys (put k v d) = keys (putNew k v d) := by
  induction d with
  | nil => rfl
  | cons p d ih =>
    obtain ⟨l, w⟩ := p
    rw [put, putNew]
    split
    · rfl
    · rw [keys_cons, keys_cons, ih]

theorem get?_put (k l : String) (v : α) (d : Dictionary α) :
    get? l (put k v d) = if k = l then some v else get? l d := by
  induction d with
  | nil => rfl
  | cons p d ih =>
    obtain ⟨m, w⟩ := p
    rw [put]
    by_cases hm : m = k
    · subst hm
      rw [if_pos rfl, get?_cons, get?_cons]
      split <;> rfl
    · rw [if_neg hm, get?_cons, get?_cons, ih]
      by_cases hl : m = l
      · simp [hl, show k ≠ l from fun h => hm (hl.trans h.symm)]
      · simp [hl]

/-- Entries put into a dictionary one by one. -/
def putAll (entries : List (String × α)) (d : Dictionary α) : Dictionary α :=
  entries.foldl (fun d p => put p.1 p.2 d) d

theorem putAll_cons (p : String × α) (entries : List (String × α)) (d : Dictionary α) :
    putAll (p :: entries) d = putAll entries (put p.1 p.2 d) := rfl

theorem keys_putAll_congr (entries : List (String × α)) {d e : Dictionary α} (h : keys d = keys e) :
    keys (putAll entries d) = keys (putAllNew entries e) := by
  induction entries generalizing d e with
  | nil => exact h
  | cons p entries ih =>
    rw [putAll_cons, putAllNew_cons]
    apply ih
    rw [keys_put, keys_putNew, keys_putNew, h]

/-- **The keys of a dictionary with entries put into it**: the new ones follow by first appearance. -/
theorem keys_putAll (entries : List (String × α)) (d : Dictionary α) :
    keys (putAll entries d) = keys d ++ ((keys entries).filter (· ∉ keys d)).eraseDups := by
  rw [keys_putAll_congr entries rfl, keys_putAllNew]

theorem get?_putAll (k : String) (entries : List (String × α)) (d : Dictionary α) :
    get? k (putAll entries d) = (get? k entries.reverse).or (get? k d) := by
  induction entries generalizing d with
  | nil => rfl
  | cons p entries ih =>
    rw [putAll_cons, ih, get?_put, List.reverse_cons, get?_append, Option.or_assoc, get?_cons]
    split <;> rfl

/-- **The value of a key is that of its last entry**, if there is one. -/
theorem get?_putAll_eq_some {k : String} {v : α} {entries : List (String × α)} {d : Dictionary α} :
    get? k (putAll entries d) = some v ↔
      LastEntry entries k v ∨ k ∉ keys entries ∧ get? k d = some v := by
  have hkeys : keys entries.reverse = (keys entries).reverse := by simp [keys]
  rw [get?_putAll, Option.or_eq_some_iff, get?_reverse_eq_some, get?_eq_none, hkeys, List.mem_reverse]

/-! ## Without a key -/

/-- The entries of other keys. -/
def without (k : String) (d : Dictionary α) : Dictionary α := d.filter (·.1 ≠ k)

theorem mem_keys_without {k l : String} {d : Dictionary α} :
    l ∈ keys (without k d) ↔ l ≠ k ∧ l ∈ keys d := by
  simp only [keys, without, List.mem_map, List.mem_filter, decide_eq_true_eq]
  constructor
  · rintro ⟨p, ⟨hp, hk⟩, rfl⟩
    exact ⟨hk, p, hp, rfl⟩
  · rintro ⟨hk, p, hp, rfl⟩
    exact ⟨p, ⟨hp, hk⟩, rfl⟩

theorem get?_without_self (k : String) (d : Dictionary α) : get? k (without k d) = none :=
  get?_eq_none.mpr fun h => (mem_keys_without.mp h).1 rfl

theorem get?_without {k l : String} (h : l ≠ k) (d : Dictionary α) :
    get? l (without k d) = get? l d := by
  induction d with
  | nil => rfl
  | cons p d ih =>
    rw [without, List.filter_cons, get?_cons, ← without]
    by_cases hk : p.1 = k
    · rw [if_neg (by simpa using hk), ih, if_neg fun hl => h (hl.symm.trans hk)]
    · rw [if_pos (by simpa using hk), get?_cons, ih]

theorem without_putNew (k l : String) (v : α) (d : Dictionary α) :
    without k (putNew l v d) = putAllNew (without k [(l, v)]) (without k d) := by
  rw [putNew_eq]
  by_cases hl : l = k
  · subst hl
    split <;> simp [without]
  · have hone : without k [(l, v)] = [(l, v)] := by simp [without, hl]
    rw [hone, putAllNew_cons, putAllNew_nil, putNew_eq]
    simp only [mem_keys_without, ne_eq, hl, not_false_eq_true, true_and]
    split
    · rfl
    · rw [without, List.filter_append, ← without, ← without, hone]

/-- A key that is left out takes its later entries with it. -/
theorem without_putAllNew (k : String) (entries : List (String × α)) (d : Dictionary α) :
    without k (putAllNew entries d) = putAllNew (without k entries) (without k d) := by
  induction entries generalizing d with
  | nil => rfl
  | cons p entries ih =>
    have hcons : without k (p :: entries) = without k [p] ++ without k entries :=
      List.filter_append [p] entries
    rw [putAllNew_cons, ih, without_putNew, hcons, putAllNew, putAllNew, putAllNew, List.foldl_append]

theorem without_ofFirst (k : String) (entries : List (String × α)) :
    without k (ofFirst entries) = ofFirst (without k entries) :=
  without_putAllNew k entries []

end Blueprint.Dictionary
