/-! # Ordered entries

A mapping whose order matters is kept as a list of its key-value pairs, in the order in which the
keys first arrived:

* `Entries.insertBy` sets the value of a key: a **known key keeps its place**, a new key goes to the
  end;
* `Entries.insert` is the case of keys compared by equality;
* `Entries.ofListBy` and `Entries.ofList` insert the pairs of a list one after the other, so that a
  repeated key has its first place and its last value.

Looking a key up is `List.lookup`. -/

namespace ServiceBindings

namespace Entries

variable {κ ν : Type}

/-- Set the value of a key, where `same` decides which keys are the same: the first entry with that
key keeps its place and its spelling of the key, and a new key goes to the end. -/
def insertBy (same : κ → κ → Bool) (key : κ) (value : ν) : List (κ × ν) → List (κ × ν)
  | [] => [(key, value)]
  | (k, v) :: rest =>
      if same k key then (k, value) :: rest else (k, v) :: insertBy same key value rest

@[simp] theorem insertBy_nil (same : κ → κ → Bool) (key : κ) (value : ν) :
    insertBy same key value [] = [(key, value)] := rfl

/-- Insert pairs one after the other into entries that are already there. -/
def insertAllBy (same : κ → κ → Bool) (entries pairs : List (κ × ν)) : List (κ × ν) :=
  pairs.foldl (fun done pair => insertBy same pair.1 pair.2 done) entries

/-- The entries that a list of pairs makes: a repeated key has its first place and its last value. -/
def ofListBy (same : κ → κ → Bool) (pairs : List (κ × ν)) : List (κ × ν) :=
  insertAllBy same [] pairs

variable [BEq κ]

/-- Set the value of a key, keys being compared by equality. -/
def insert (key : κ) (value : ν) (entries : List (κ × ν)) : List (κ × ν) :=
  insertBy (· == ·) key value entries

/-- The entries that a list of pairs makes, keys being compared by equality. -/
def ofList (pairs : List (κ × ν)) : List (κ × ν) := ofListBy (· == ·) pairs

@[simp] theorem insert_nil (key : κ) (value : ν) : insert key value [] = [(key, value)] := rfl

theorem insert_cons (key : κ) (value : ν) (k : κ) (v : ν) (rest : List (κ × ν)) :
    insert key value ((k, v) :: rest)
      = if k == key then (k, value) :: rest else (k, v) :: insert key value rest := rfl

@[simp] theorem ofList_nil : ofList ([] : List (κ × ν)) = [] := rfl

variable [LawfulBEq κ]

/-- The value just set is the value found. -/
@[simp] theorem lookup_insert_self (key : κ) (value : ν) (entries : List (κ × ν)) :
    (insert key value entries).lookup key = some value := by
  induction entries with
  | nil => simp
  | cons entry rest ih =>
      obtain ⟨k, v⟩ := entry
      by_cases h : k = key
      · simp [insert_cons, h]
      · have h' : (key == k) = false := by simpa using Ne.symm h
        simp [insert_cons, List.lookup_cons, h, h', ih]

/-- Setting one key leaves the values of the others. -/
theorem lookup_insert_of_ne {key other : κ} (h : other ≠ key) (value : ν)
    (entries : List (κ × ν)) :
    (insert key value entries).lookup other = entries.lookup other := by
  have hne : (other == key) = false := by simpa using h
  induction entries with
  | nil => simp [List.lookup_cons, hne]
  | cons entry rest ih =>
      obtain ⟨k, v⟩ := entry
      by_cases hk : k = key
      · subst hk
        simp [insert_cons, List.lookup_cons, hne]
      · by_cases ho : other = k
        · subst ho
          simp [insert_cons, hk]
        · have h' : (other == k) = false := by simpa using ho
          simp [insert_cons, List.lookup_cons, hk, h', ih]

end Entries

end ServiceBindings
