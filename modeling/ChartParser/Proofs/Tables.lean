/-!
# Tables and runs

Symbols of a grammar and nodes of a forest are kept in tables. An entry is found by its key, through
an index or by a search. A table only grows at its end, and only by an entry whose key has not been
found, so that a key never belongs to two entries. Runs of steps that may fail are taken apart step
by step, and two runs are compared by how they end.
-/

namespace ChartParser

/-! ## Tables searched by key -/

section Tables

variable {α β : Type}

/-- A new entry comes last and changes no key. -/
theorem map_getElem?_push (entries : Array β) (entry : β) (key : β → α) (id : Nat) :
    ((entries.push entry)[id]?).map key =
      if id = entries.size then some (key entry) else (entries[id]?).map key := by
  rw [Array.getElem?_push]
  split <;> rfl

/-- A change of an entry that keeps some part of it changes that part of no entry. -/
theorem map_getElem?_modify {γ : Type} (entries : Array β) (id : Nat) {change : β → β}
    {part : β → γ} (kept : ∀ entry, part (change entry) = part entry) (other : Nat) :
    ((entries.modify id change)[other]?).map part = (entries[other]?).map part := by
  rw [Array.getElem?_modify]
  split
  · rw [Option.map_map]
    congr 1
    exact funext kept
  · rfl

/-- A new entry whose key no entry has leaves every key to one entry. -/
theorem eq_of_push (entries : Array β) (entry : β) (key : β → α)
    (fresh : ∀ id : Nat, (entries[id]?).map key ≠ some (key entry))
    (unique : ∀ {left right : Nat} {name : α}, (entries[left]?).map key = some name →
      (entries[right]?).map key = some name → left = right)
    {left right : Nat} {name : α} (first : ((entries.push entry)[left]?).map key = some name)
    (second : ((entries.push entry)[right]?).map key = some name) : left = right := by
  rw [map_getElem?_push] at first second
  split at first <;> split at second
  · rename_i atLeft atRight
    exact atLeft.trans atRight.symm
  · exact absurd (second.trans first.symm) (fresh right)
  · exact absurd (first.trans second.symm) (fresh left)
  · exact unique first second

/-- If a key belongs to one entry only, no key is listed twice. -/
theorem nodup_keys (entries : Array β) (key : β → α)
    (unique : ∀ {left right : Nat} {name : α}, (entries[left]?).map key = some name →
      (entries[right]?).map key = some name → left = right) :
    (entries.toList.map key).Nodup := by
  refine List.pairwise_iff_getElem.2 fun left right inside insideToo before same => ?_
  have keyed : ∀ (id : Nat) (within : id < (entries.toList.map key).length),
      (entries[id]?).map key = some (entries.toList.map key)[id] := by
    intro id within
    rw [← List.getElem?_eq_getElem within, List.getElem?_map, Array.getElem?_toList]
  have first := keyed left inside
  rw [same] at first
  exact absurd (unique first (keyed right insideToo)) (Nat.ne_of_lt before)

/-- An association in front is found first. -/
theorem lookup_cons_eq [DecidableEq α] (key other : α) (value : β) (entries : List (α × β)) :
    List.lookup other ((key, value) :: entries) =
      if other = key then some value else entries.lookup other := by
  rw [List.lookup_cons]
  by_cases same : other = key
  · simp [same]
  · rw [if_neg same, beq_eq_false_iff_ne.2 same]

/-- What has been found in a table is still found when something is added to it. -/
theorem getElem?_push_of_some {entries : Array β} {entry : β} {id : Nat}
    (found : entries[id]? = some entry) (last : β) : (entries.push last)[id]? = some entry := by
  have inside := (Array.getElem?_eq_some_iff.1 found).1
  rw [Array.getElem?_push, if_neg (Nat.ne_of_lt inside)]
  exact found

/-- The index finds every entry of the table by its key, and nothing else. -/
def Indexes (index : List (α × Nat)) (entries : Array β) (key : β → α) [BEq α] : Prop :=
  ∀ (name : α) (id : Nat), index.lookup name = some id ↔ (entries[id]?).map key = some name

namespace Indexes

variable [DecidableEq α] {index : List (α × Nat)} {entries other : Array β} {key : β → α}

/-- An empty index finds all of an empty table. -/
theorem empty : Indexes [] #[] key := by
  intro name id
  simp

/-- A table with the same keys has the same index. -/
theorem congr (indexes : Indexes index entries key)
    (same : ∀ id : Nat, (other[id]?).map key = (entries[id]?).map key) :
    Indexes index other key := by
  intro name id
  rw [same]
  exact indexes name id

/-- A key belongs to one entry only. -/
theorem unique (indexes : Indexes index entries key) {left right : Nat} {name : α}
    (first : (entries[left]?).map key = some name)
    (second : (entries[right]?).map key = some name) : left = right := by
  have found := (indexes name left).2 first
  rw [(indexes name right).2 second] at found
  exact (Option.some.inj found).symm

/-- An entry whose key the search has missed may be added to both. -/
theorem push (indexes : Indexes index entries key) (entry : β)
    (missed : index.lookup (key entry) = none) :
    Indexes ((key entry, entries.size) :: index) (entries.push entry) key := by
  intro name id
  rw [lookup_cons_eq, map_getElem?_push]
  by_cases last : id = entries.size
  · rw [if_pos last, last]
    by_cases same : name = key entry
    · rw [if_pos same, same]
      exact iff_of_true rfl rfl
    · rw [if_neg same, indexes name entries.size, Array.getElem?_eq_none (Nat.le_refl _)]
      simp [Ne.symm same]
  · rw [if_neg last]
    by_cases same : name = key entry
    · subst same
      rw [if_pos rfl, ← indexes, missed]
      simp [Ne.symm last]
    · rw [if_neg same]
      exact indexes name id

end Indexes

end Tables

/-! ## Runs that may fail -/

section Runs

variable {ε α β : Type}

/-- Two steps succeed exactly if the first does and the second does with its result. -/
theorem bind_eq_ok {first : Except ε α} {second : α → Except ε β} {result : β} :
    first >>= second = .ok result ↔ ∃ middle, first = .ok middle ∧ second middle = .ok result := by
  cases first with
  | error _ => simp [bind, Except.bind]
  | ok _ => simp [bind, Except.bind]

/-- A step whose result is changed succeeds exactly if the step does. -/
theorem map_eq_ok {first : Except ε α} {change : α → β} {result : β} :
    first.map change = .ok result ↔ ∃ middle, first = .ok middle ∧ change middle = result := by
  cases first with
  | error _ => simp [Except.map]
  | ok _ => simp [Except.map]

/-- Two steps fail if the first does, or the second behind it. -/
theorem bind_eq_error {first : Except ε α} {second : α → Except ε β} {error : ε} :
    first >>= second = .error error ↔
      first = .error error ∨ ∃ middle, first = .ok middle ∧ second middle = .error error := by
  cases first with
  | error _ => simp [bind, Except.bind]
  | ok _ => simp [bind, Except.bind]

/-- What is made of a result fails only where the result does. -/
theorem map_eq_error {first : Except ε α} {change : α → β} {error : ε} :
    first.map change = .error error ↔ first = .error error := by
  cases first <;> simp [Except.map]

/-- If not every element gives a result, some element gives the error. -/
theorem exists_of_mapM_eq_error {step : α → Except ε β} {elements : List α} {error : ε}
    (failed : elements.mapM step = .error error) :
    ∃ element ∈ elements, step element = .error error := by
  induction elements with
  | nil => cases failed
  | cons element elements ih =>
    rw [List.mapM_cons, bind_eq_error] at failed
    rcases failed with here | ⟨_, -, later⟩
    · exact ⟨element, List.mem_cons_self, here⟩
    · rcases bind_eq_error.1 later with others | ⟨_, -, done⟩
      · obtain ⟨found, among, same⟩ := ih others
        exact ⟨found, List.mem_cons_of_mem _ among, same⟩
      · cases done

/-- A run that has not failed has a result. -/
theorem exists_eq_ok {result : Except ε α} (succeeds : result.isOk = true) :
    ∃ value, result = .ok value := by
  cases result with
  | error _ => simp [Except.isOk, Except.toBool] at succeeds
  | ok value => exact ⟨value, rfl⟩

/-- What holds at first and is kept by every step that succeeds holds after a run that succeeds. -/
theorem foldlM_induction {step : β → α → Except ε β} (holds : β → Prop)
    (kept : ∀ {before input after}, holds before → step before input = .ok after → holds after)
    {inputs : List α} {first last : β} (start : holds first)
    (run : inputs.foldlM step first = .ok last) : holds last := by
  induction inputs generalizing first with
  | nil =>
    obtain rfl : first = last := by simpa [pure, Except.pure] using run
    exact start
  | cons input inputs ih =>
    rw [List.foldlM_cons, bind_eq_ok] at run
    obtain ⟨middle, stepped, rest⟩ := run
    exact ih (kept start stepped) rest

/-- Two runs end alike: with the same failure, or with results that are related. -/
inductive EndAlike {γ : Type} (related : α → γ → Prop) : Except ε α → Except ε γ → Prop
  | failed (error : ε) : EndAlike related (.error error) (.error error)
  | passed {left : α} {right : γ} (alike : related left right) :
      EndAlike related (.ok left) (.ok right)

namespace EndAlike

variable {γ δ : Type} {related : α → γ → Prop} {relatedToo : β → δ → Prop} {left : Except ε α}
  {right : Except ε γ}

/-- Runs that go on alike from related results end alike. -/
theorem bind (alike : EndAlike related left right) {next : α → Except ε β}
    {nextToo : γ → Except ε δ}
    (onward : ∀ result resultToo, related result resultToo →
      EndAlike relatedToo (next result) (nextToo resultToo)) :
    EndAlike relatedToo (left >>= next) (right >>= nextToo) := by
  cases alike with
  | failed error => exact .failed error
  | passed alike => exact onward _ _ alike

/-- Runs whose results are changed to related ones end alike. -/
theorem map (alike : EndAlike related left right) {change : α → β} {changeToo : γ → δ}
    (onward : ∀ result resultToo, related result resultToo →
      relatedToo (change result) (changeToo resultToo)) :
    EndAlike relatedToo (left.map change) (right.map changeToo) := by
  cases alike with
  | failed error => exact .failed error
  | passed alike => exact .passed (onward _ _ alike)

end EndAlike

/-- Two runs succeed alike: both fail, each in its own way, or both have results, which are related.
-/
inductive SucceedAlike {δ γ : Type} (related : α → γ → Prop) : Except ε α → Except δ γ → Prop
  | failed (error : ε) (errorToo : δ) : SucceedAlike related (.error error) (.error errorToo)
  | passed {left : α} {right : γ} (alike : related left right) :
      SucceedAlike related (.ok left) (.ok right)

namespace SucceedAlike

variable {δ γ η : Type} {related : α → γ → Prop} {relatedToo : β → η → Prop} {left : Except ε α}
  {right : Except δ γ}

/-- Runs that go on alike from related results succeed alike. -/
theorem bind (alike : SucceedAlike related left right) {next : α → Except ε β}
    {nextToo : γ → Except δ η}
    (onward : ∀ result resultToo, related result resultToo →
      SucceedAlike relatedToo (next result) (nextToo resultToo)) :
    SucceedAlike relatedToo (left >>= next) (right >>= nextToo) := by
  cases alike with
  | failed error errorToo => exact .failed error errorToo
  | passed alike => exact onward _ _ alike

/-- What else is known of the results may be added. -/
theorem imp (alike : SucceedAlike related left right) {stronger : α → γ → Prop}
    (onward : ∀ result resultToo, left = .ok result → related result resultToo →
      stronger result resultToo) : SucceedAlike stronger left right := by
  cases alike with
  | failed error errorToo => exact .failed error errorToo
  | passed alike => exact .passed (onward _ _ rfl alike)

/-- Runs whose first result is changed succeed alike. -/
theorem map (alike : SucceedAlike related left right) {change : α → β}
    {relatedToo : β → γ → Prop}
    (onward : ∀ result resultToo, related result resultToo →
      relatedToo (change result) resultToo) :
    SucceedAlike relatedToo (left.map change) right := by
  cases alike with
  | failed error errorToo => exact .failed error errorToo
  | passed alike => exact .passed (onward _ _ alike)

/-- Runs that succeed alike have results at the same time. -/
theorem exists_iff (alike : SucceedAlike related left right) :
    (∃ result, left = .ok result) ↔ ∃ result, right = .ok result := by
  cases alike with
  | failed error errorToo => simp
  | passed _ => simp

/-- The results of runs that succeed alike are related. -/
theorem related_of_eq_ok (alike : SucceedAlike related left right) {result : α} {resultToo : γ}
    (passed : left = .ok result) (passedToo : right = .ok resultToo) :
    related result resultToo := by
  subst passed passedToo
  cases alike with
  | passed alike => exact alike

end SucceedAlike

end Runs

end ChartParser
