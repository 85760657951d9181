import Mathlib.Data.List.Basic
import Tikblog.Python.Runtime

/-!
# The object store

The objects of one bucket, the listing of a prefix, and the prefixes `as_prefix` makes.
A key below such a prefix splits in one way into the prefix and a name without slashes, so
that different prefixes never share a key.
-/

namespace Tikblog.Storage

open Python

/-- The objects of a bucket by key. -/
abbrev Objects := String → Option Bytes

/-- `list_keys(keyPrefix)`: the keys of the bucket that start with the prefix, sorted. -/
def Lists (objects : Objects) (keyPrefix : String) (keys : List String) : Prop :=
  keys.Pairwise (· < ·) ∧
    ∀ key, key ∈ keys ↔ (objects key).isSome ∧ keyPrefix.toList <+: key.toList

/-- `as_prefix`. -/
def asPrefix (value : String) : String :=
  let stripped := stripWhere (· == '/') value
  if stripped ≠ "" then stripped ++ "/" else ""

/-- A non-empty prefix, as `as_prefix` makes it: it ends in a slash. -/
def IsPrefix (keyPrefix : String) : Prop := ∃ path, keyPrefix.toList = path ++ ['/']

theorem isPrefix_asPrefix {value : String} (h : asPrefix value ≠ "") : IsPrefix (asPrefix value) := by
  by_cases empty : stripWhere (· == '/') value = ""
  · exact absurd (by simp [asPrefix, empty]) h
  · exact ⟨(stripWhere (· == '/') value).toList, by simp [asPrefix, empty]⟩

/-- A name directly below a prefix. -/
abbrev SlashFree (name : String) : Prop := '/' ∉ name.toList

/-- Read backwards, a key gives its name up to the first slash. -/
theorem takeWhile_name {name rest : List Char} (h : '/' ∉ name) :
    (name ++ '/' :: rest).takeWhile (· != '/') = name := by
  rw [List.takeWhile_append_of_pos]
  · simp
  · intro c hc
    simpa using fun slash : c = '/' => h (slash ▸ hc)

/-- Keys below prefixes are equal only if prefix and name are. -/
theorem key_inj {p q m n : String} (hp : IsPrefix p) (hq : IsPrefix q) (hm : SlashFree m)
    (hn : SlashFree n) (same : p ++ m = q ++ n) : p = q ∧ m = n := by
  obtain ⟨path, hp⟩ := hp
  obtain ⟨path', hq⟩ := hq
  have lists := congrArg (List.reverse ∘ String.toList) same
  simp only [Function.comp_apply, String.toList_append, hp, hq, List.reverse_append, List.reverse_cons,
    List.reverse_nil, List.nil_append, List.cons_append] at lists
  have reversed : m.toList.reverse = n.toList.reverse := by
    have heads := congrArg (List.takeWhile (· != '/')) lists
    rwa [takeWhile_name (by simpa using hm), takeWhile_name (by simpa using hn)] at heads
  have names : m = n := String.toList_injective (List.reverse_injective reversed)
  subst names
  have paths : path.reverse = path'.reverse := by simpa using lists
  refine ⟨String.toList_injective ?_, rfl⟩
  rw [hp, hq, List.reverse_injective paths]

end Tikblog.Storage
