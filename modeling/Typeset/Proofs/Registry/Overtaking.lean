import Mathlib.Data.List.TakeWhile
import Typeset.Proofs.Events.Hearing
import Typeset.Registry.Hub

/-!
# Operations that overtake one another

A listener may operate the registry while it is called, so that operations run inside one another.
The history of a registry tells when an operation on a document was invoked, for its first notice
goes out at once, and when a listener was told of its status. One operation overtakes another if it
is invoked while the status of the other is still on its way to the listener.

Forgetting all documents at once counts as an operation on each of them.

## Main definitions

* `Registry.Notice.opens?`: the status that an operation gives to a document, by its first notice
* `Registry.Notice.status?`: the status that a notice tells of a document
* `Registry.invoked`, `Registry.told`: the operations on a document, and what a listener is told
* `Registry.overtaken`: whether an operation on a document overtakes another

## Main results

* `Registry.invoked_eq_nil_of_opensBefore`: nothing is invoked before a notice has arrived that no
  operation overtakes
-/

namespace Typeset.Registry

open Events (Incident ListenerId emitted received)

variable {ρ : Type}

/-! ## Operations and their notices -/

namespace Notice

/-- The status that an operation gives to a document, if the notice is the first of the
operation. -/
def opens? (file : String) : Notice → Option BuildStatus
  | started f => if f = file then some .building else none
  | finished f _ _ => if f = file then some .success else none
  | failed f _ _ => if f = file then some .error else none
  | statusChanged .idle (some f) _ => if f = file then some .idle else none
  | statusChanged .idle none _ => some .idle
  | _ => none

/-- The status that a notice tells of a document. -/
def status? (file : String) : Notice → Option BuildStatus
  | statusChanged s (some f) _ => if f = file then some s else none
  | statusChanged s none _ => some s
  | _ => none

end Notice

/-- The status that an operation gives to a document, if the operation begins with an incident. -/
def opens? (file : String) (i : Incident Topic Notice ρ) : Option BuildStatus :=
  i.emission.bind fun e => e.2.opens? file

/-- The status of a document that a listener is told in an incident. -/
def tells? (file : String) (id : ListenerId) (i : Incident Topic Notice ρ) : Option BuildStatus :=
  (i.heardBy? id).bind (Notice.status? file)

/-- The statuses that operations gave to a document, in the order in which the operations were
invoked. -/
def invoked (file : String) (is : List (Incident Topic Notice ρ)) : List BuildStatus :=
  is.filterMap (opens? file)

/-- The statuses of a document that a listener was told, in order. -/
def told (file : String) (id : ListenerId) (is : List (Incident Topic Notice ρ)) :
    List BuildStatus :=
  is.filterMap (tells? file id)

@[simp] theorem invoked_append (file : String) (is js : List (Incident Topic Notice ρ)) :
    invoked file (is ++ js) = invoked file is ++ invoked file js := List.filterMap_append

@[simp] theorem told_append (file : String) (id : ListenerId)
    (is js : List (Incident Topic Notice ρ)) :
    told file id (is ++ js) = told file id is ++ told file id js := List.filterMap_append

/-- At a call a listener may be told a status, and no operation begins. -/
theorem told_called_cons (file : String) (id : ListenerId) (emission : Nat) (j : ListenerId)
    (n : Notice) (is : List (Incident Topic Notice ρ)) :
    told file id (.called emission j n :: is) =
      (if j = id then (n.status? file).toList else []) ++ told file id is := by
  by_cases h : j = id <;>
    cases hn : n.status? file <;> simp [told, tells?, Incident.heardBy?, h, hn]

theorem invoked_called_cons (file : String) (emission : Nat) (j : ListenerId) (n : Notice)
    (is : List (Incident Topic Notice ρ)) :
    invoked file (.called emission j n :: is) = invoked file is := rfl

/-- At the beginning of an emission an operation may begin, and nobody is told anything. -/
theorem invoked_begun_cons (file : String) (emission : Nat) (channel : Topic) (n : Notice)
    (audience : List ListenerId) (is : List (Incident Topic Notice ρ)) :
    invoked file (.begun emission channel n audience :: is) =
      (n.opens? file).toList ++ invoked file is := by
  cases hn : n.opens? file <;> simp [invoked, opens?, Incident.emission, hn]

theorem told_begun_cons (file : String) (id : ListenerId) (emission : Nat) (channel : Topic)
    (n : Notice) (audience : List ListenerId) (is : List (Incident Topic Notice ρ)) :
    told file id (.begun emission channel n audience :: is) = told file id is := rfl

theorem invoked_eq_nil {file : String} {is : List (Incident Topic Notice ρ)}
    (h : ∀ i ∈ is, opens? file i = none) : invoked file is = [] := List.filterMap_eq_nil_iff.mpr h

/-! ## Overtaking -/

/-- Whether an incident is the last that matters of a notice on its way to a listener: the call
with it, if it tells a status of the document, and else the end of its emission. -/
def arrives (file : String) (id : ListenerId) (emission : Nat) (n : Notice) :
    Incident Topic Notice ρ → Bool
  | .called e j _ => (n.status? file).isSome && e = emission && j = id
  | .ended e => (n.opens? file).isSome && (n.status? file).isNone && e = emission
  | _ => false

/-- Whether an operation on a document is invoked before one of the incidents `stop`. -/
def opensBefore (file : String) (stop : Incident Topic Notice ρ → Bool)
    (is : List (Incident Topic Notice ρ)) : Bool :=
  (is.dropWhile fun i => (opens? file i).isNone).any stop

/-- Whether an operation on a document is invoked while a notice of another one is on its way to a
listener. -/
def overtaken (file : String) (id : ListenerId) : List (Incident Topic Notice ρ) → Bool
  | [] => false
  | i :: is =>
    (match i with
      | .begun emission _ n _ => opensBefore file (arrives file id emission n) is
      | _ => false) || overtaken file id is

theorem opensBefore_append_left {file : String} {stop : Incident Topic Notice ρ → Bool}
    {is js : List (Incident Topic Notice ρ)} (h : opensBefore file stop (is ++ js) = false) :
    opensBefore file stop is = false := by
  rw [opensBefore, List.dropWhile_append] at h
  split at h
  · next hnil => rw [opensBefore, List.isEmpty_iff.mp hnil, List.any_nil]
  · rw [List.any_append, Bool.or_eq_false_iff] at h
    exact h.1

/-- What is left out at the front of the second list is no loss. -/
theorem opensBefore_append_right {file : String} {stop : Incident Topic Notice ρ → Bool}
    {is js : List (Incident Topic Notice ρ)} (h : opensBefore file stop (is ++ js) = false) :
    opensBefore file stop js = false := by
  rw [opensBefore, List.dropWhile_append] at h
  split at h
  · exact h
  · rw [List.any_append, Bool.or_eq_false_iff] at h
    refine List.any_eq_false.mpr fun i hi => List.any_eq_false.mp h.2 i ?_
    exact (List.dropWhile_sublist _).subset hi

/-- Nothing is invoked before a notice arrives that no operation overtakes. -/
theorem invoked_eq_nil_of_opensBefore {file : String} {stop : Incident Topic Notice ρ → Bool}
    {is js : List (Incident Topic Notice ρ)} (h : opensBefore file stop (is ++ js) = false)
    (hstop : ∃ i ∈ js, stop i) : invoked file is = [] := by
  rw [opensBefore, List.dropWhile_append] at h
  split at h
  · next hnil =>
    refine invoked_eq_nil fun i hi => ?_
    have := List.dropWhile_eq_nil_iff.mp (List.isEmpty_iff.mp hnil) i hi
    simpa using this
  · rw [List.any_append, Bool.or_eq_false_iff] at h
    obtain ⟨i, hi, hs⟩ := hstop
    exact absurd hs (List.any_eq_false.mp h.2 i hi)

/-- What never arrives is not overtaken. -/
theorem opensBefore_of_irrelevant {file : String} {id : ListenerId} {emission : Nat} {n : Notice}
    (hopens : n.opens? file = none) (hstatus : n.status? file = none)
    (is : List (Incident Topic Notice ρ)) :
    opensBefore file (arrives file id emission n) is = false := by
  refine List.any_eq_false.mpr fun i _ => ?_
  cases i <;> simp [arrives, hopens, hstatus]

theorem overtaken_begun_cons {file : String} {id : ListenerId} {emission : Nat} {channel : Topic}
    {n : Notice} {audience : List ListenerId} {is : List (Incident Topic Notice ρ)}
    (h : overtaken file id (.begun emission channel n audience :: is) = false) :
    opensBefore file (arrives file id emission n) is = false ∧ overtaken file id is = false :=
  Bool.or_eq_false_iff.mp h

theorem overtaken_append_left {file : String} {id : ListenerId}
    {is js : List (Incident Topic Notice ρ)} (h : overtaken file id (is ++ js) = false) :
    overtaken file id is = false := by
  induction is with
  | nil => rfl
  | cons i is ih =>
    obtain ⟨hi, his⟩ := Bool.or_eq_false_iff.mp h
    refine Bool.or_eq_false_iff.mpr ⟨?_, ih his⟩
    cases i with
    | begun emission channel n audience => exact opensBefore_append_left hi
    | _ => rfl

theorem overtaken_append_right {file : String} {id : ListenerId}
    {is js : List (Incident Topic Notice ρ)} (h : overtaken file id (is ++ js) = false) :
    overtaken file id js = false := by
  induction is with
  | nil => exact h
  | cons i is ih => exact ih (Bool.or_eq_false_iff.mp h).2

end Typeset.Registry
