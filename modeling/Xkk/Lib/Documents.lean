import Mathlib.Data.List.Basic
import Mathlib.Tactic.Common

/-! # Documents and collections

A document is an ordered map: a key that is inserted again keeps its place and
gets the new value.  A collection is a list of documents that are found by the
value of one key; `replace` overwrites the first document with an id, or adds
the document when there is none.  The lemmas say what is found after each of
the two, so that later proofs read a document by its inserts and a collection
by its replacements.
-/

namespace Xkk.Lib.Documents

universe u v

variable {κ : Type u} {ν : Type v} [DecidableEq κ]

/-- The entries in the order in which their keys were first inserted. -/
abbrev Document (κ : Type u) (ν : Type v) := List (κ × ν)

namespace Document

def empty : Document κ ν := []

def get (doc : Document κ ν) (key : κ) : Option ν := (doc.find? fun entry => entry.1 = key).map Prod.snd

def insert : Document κ ν → κ → ν → Document κ ν
  | [], key, value => [(key, value)]
  | entry :: rest, key, value =>
    if entry.1 = key then (key, value) :: rest else entry :: insert rest key value

/-- A value that is left out when it need not be written. -/
def insertIf (doc : Document κ ν) (present : Bool) (key : κ) (value : ν) : Document κ ν :=
  if present then doc.insert key value else doc

def insertSome (doc : Document κ ν) (key : κ) (value : Option ν) : Document κ ν :=
  match value with
  | some value => doc.insert key value
  | none => doc

@[simp] theorem get_empty (key : κ) : (empty : Document κ ν).get key = none := rfl

theorem get_cons (entry : κ × ν) (rest : Document κ ν) (key : κ) :
    get (entry :: rest) key = if entry.1 = key then some entry.2 else get rest key := by
  by_cases same : entry.1 = key
  · simp [get, same]
  · simp [get, same]

/-- What is read is the last value that was inserted under the key. -/
@[simp] theorem get_insert (doc : Document κ ν) (key : κ) (value : ν) (other : κ) :
    get (insert doc key value) other = if key = other then some value else get doc other := by
  induction doc with
  | nil => rw [insert, get_cons]
  | cons entry rest ih =>
    rw [insert]
    split
    next same =>
      rw [get_cons, get_cons, same]
      split <;> rfl
    next differ =>
      rw [get_cons, get_cons, ih]
      by_cases here : entry.1 = other
      · have apart : key ≠ other := fun same => differ (here.trans same.symm)
        rw [if_pos here, if_neg apart, if_pos here]
      · rw [if_neg here, if_neg here]

@[simp] theorem get_insertIf (doc : Document κ ν) (present : Bool) (key : κ) (value : ν) (other : κ) :
    (doc.insertIf present key value).get other
      = if present = true ∧ key = other then some value else doc.get other := by
  cases present <;> simp [insertIf]

@[simp] theorem get_insertSome (doc : Document κ ν) (key : κ) (value : Option ν) (other : κ) :
    (doc.insertSome key value).get other = if key = other then value.or (doc.get other) else doc.get other := by
  cases value <;> simp [insertSome]

/-- A new key goes to the end. -/
theorem insert_of_get_none {doc : Document κ ν} {key : κ} (missing : get doc key = none) (value : ν) :
    insert doc key value = doc ++ [(key, value)] := by
  induction doc with
  | nil => rfl
  | cons entry rest ih =>
    rw [get_cons] at missing
    split at missing
    next => cases missing
    next differ => rw [insert, if_neg differ, ih missing, List.cons_append]

/-- Inserting entries with different keys one after the other lists them. -/
theorem foldl_insert {doc entries : Document κ ν} (nodup : (entries.map Prod.fst).Nodup)
    (missing : ∀ entry ∈ entries, get doc entry.1 = none) :
    entries.foldl (fun doc entry => insert doc entry.1 entry.2) doc = doc ++ entries := by
  induction entries generalizing doc with
  | nil => simp
  | cons entry rest ih =>
    rw [List.map_cons, List.nodup_cons] at nodup
    have here := insert_of_get_none (missing entry List.mem_cons_self) entry.2
    have later : ∀ other ∈ rest, get (insert doc entry.1 entry.2) other.1 = none := by
      intro other member
      have apart : entry.1 ≠ other.1 := by
        intro same
        exact nodup.1 (same ▸ List.mem_map_of_mem member)
      rw [get_insert, if_neg apart]
      exact missing other (List.mem_cons_of_mem _ member)
    rw [List.foldl_cons, ih nodup.2 later, here, List.append_assoc, List.singleton_append]

end Document

/-! ## Lists of values -/

/-- A list is read back when each of its values is. -/
theorem mapM_encoded {ε : Type u} {α β γ : Type v} {encode : α → β} {decode : β → Except ε γ} {back : α → γ}
    {l : List α} (reads : ∀ a ∈ l, decode (encode a) = .ok (back a)) :
    (l.map encode).mapM decode = .ok (l.map back) := by
  induction l with
  | nil => rfl
  | cons head tail ih =>
    have rest := ih fun a member => reads a (List.mem_cons_of_mem _ member)
    rw [List.map_cons, List.mapM_cons, reads head List.mem_cons_self, rest]
    rfl

/-! ## Collections -/

section Collections

variable {δ : Type u}

-- `isId d` says that `d` is found under the id in question
def replace (isId : δ → Bool) (document : δ) : List δ → List δ
  | [] => [document]
  | d :: rest => if isId d then document :: rest else d :: replace isId document rest

theorem find_replace_self {isId : δ → Bool} {document : δ} (named : isId document = true) (l : List δ) :
    (replace isId document l).find? isId = some document := by
  induction l with
  | nil => simp [replace, named]
  | cons d rest ih =>
    rw [replace]
    split
    next => simp [named]
    next differ => simp [differ, ih]

/-- A document under another id stays. -/
theorem find_replace_other {isId isOther : δ → Bool} {document : δ} (apart : isOther document = false)
    (different : ∀ d, isId d = true → isOther d = false) (l : List δ) :
    (replace isId document l).find? isOther = l.find? isOther := by
  induction l with
  | nil => simp [replace, apart]
  | cons d rest ih =>
    rw [replace]
    split
    next here => simp [apart, different d here]
    next =>
      rw [List.find?_cons, List.find?_cons, ih]

theorem filter_replace_self {isId : δ → Bool} {document : δ} (named : isId document = true) {l : List δ}
    (once : (l.filter isId).length ≤ 1) : (replace isId document l).filter isId = [document] := by
  induction l with
  | nil => simp [replace, named]
  | cons d rest ih =>
    rw [replace]
    split
    next here =>
      rw [List.filter_cons, if_pos here, List.length_cons] at once
      have none : rest.filter isId = [] := List.eq_nil_of_length_eq_zero (by omega)
      simp [named, none]
    next differ =>
      rw [List.filter_cons, if_neg differ] at once
      simp [differ, ih once]

theorem filter_replace_other {isId isOther : δ → Bool} {document : δ} (apart : isOther document = false)
    (different : ∀ d, isId d = true → isOther d = false) (l : List δ) :
    (replace isId document l).filter isOther = l.filter isOther := by
  induction l with
  | nil => simp [replace, apart]
  | cons d rest ih =>
    rw [replace]
    split
    next here => simp [apart, different d here]
    next => rw [List.filter_cons, List.filter_cons, ih]

theorem mem_replace {isId : δ → Bool} {document d : δ} {l : List δ} (member : d ∈ replace isId document l) :
    d = document ∨ d ∈ l := by
  induction l with
  | nil => exact .inl (List.mem_singleton.mp member)
  | cons head rest ih =>
    rw [replace] at member
    split at member
    next =>
      cases List.mem_cons.mp member with
      | inl here => exact .inl here
      | inr later => exact .inr (List.mem_cons_of_mem _ later)
    next =>
      cases List.mem_cons.mp member with
      | inl here => exact .inr (here ▸ List.mem_cons_self)
      | inr later =>
        cases ih later with
        | inl isDocument => exact .inl isDocument
        | inr before => exact .inr (List.mem_cons_of_mem _ before)

/-- In any order the same document is found, when there is at most one. -/
theorem find_perm {isId : δ → Bool} {l l' : List δ} (perm : l.Perm l') (once : (l'.filter isId).length ≤ 1) :
    l.find? isId = l'.find? isId := by
  have same := perm.filter isId
  rw [← List.head?_filter, ← List.head?_filter]
  cases found : l'.filter isId with
  | nil => rw [found, List.perm_nil] at same; rw [same]
  | cons d rest =>
    have alone : rest = [] := by
      rw [found, List.length_cons] at once
      exact List.eq_nil_of_length_eq_zero (by omega)
    rw [found, alone, List.perm_singleton] at same
    rw [same, alone]

end Collections

end Xkk.Lib.Documents
