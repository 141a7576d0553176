/-
This file states what putting and erasing entries change and what they leave alone.
-/

import Graft.Entries
import Mathlib.Data.List.Induction

namespace Graft.Entries

variable {A : Type}

/-- A key that is present keeps its place among the keys, and a new one comes last. -/
theorem keys_put (key : String) (value : A) (entries : List (String × A)) :
    keys (put key value entries) =
      if key ∈ keys entries then keys entries else keys entries ++ [key] := by
  induction entries with
  | nil => simp [put, keys]
  | cons pair rest inductionHypothesis =>
      obtain ⟨name, old⟩ := pair
      by_cases same : name = key
      · simp [put, keys, same]
      · have tail : keys (put key value ((name, old) :: rest)) =
            name :: keys (put key value rest) := by simp [put, keys, same]
        have member : key ∈ keys ((name, old) :: rest) ↔ key ∈ keys rest := by
          simp [keys, Ne.symm same]
        rw [tail, inductionHypothesis]
        by_cases present : key ∈ keys rest
        · rw [if_pos present, if_pos (member.mpr present)]
          rfl
        · rw [if_neg present, if_neg (mt member.mp present)]
          rfl

/-- A value put under a key that is present leaves the keys as they are. -/
theorem keys_put_of_mem {key : String} {entries : List (String × A)} (present : key ∈ keys entries)
    (value : A) : keys (put key value entries) = keys entries := by
  rw [keys_put, if_pos present]

/-- The first pair with a key splits the entries, and a put changes that pair only. -/
theorem put_split {key : String} {old : A} {entries : List (String × A)}
    (found : find? key entries = some old) :
    ∃ front back, key ∉ keys front ∧ entries = front ++ (key, old) :: back ∧
      ∀ value, put key value entries = front ++ (key, value) :: back := by
  induction entries with
  | nil => simp at found
  | cons pair rest inductionHypothesis =>
      obtain ⟨name, first⟩ := pair
      rw [find?_cons] at found
      split at found
      · rename_i same
        obtain rfl := Option.some.inj found
        exact ⟨[], rest, by simp [keys], by simp [same], fun value => by simp [put, same]⟩
      · rename_i different
        obtain ⟨front, back, absent, split, changed⟩ := inductionHypothesis found
        refine ⟨(name, first) :: front, back, ?_, by simp [split], fun value => ?_⟩
        · simpa [keys, Ne.symm different] using absent
        · simp [put, different, changed value]

/-- The first pair with a key gives its value. -/
theorem find?_middle {key : String} {front : List (String × A)} (new : key ∉ keys front)
    (value : A) (back : List (String × A)) :
    find? key (front ++ (key, value) :: back) = some value := by
  induction front with
  | nil => simp [find?]
  | cons pair rest inductionHypothesis =>
      simp only [keys, List.map_cons, List.mem_cons, not_or] at new
      simp [find?, Ne.symm new.1, inductionHypothesis new.2]

/-- A put changes the first pair with the key. -/
theorem put_middle {key : String} {front : List (String × A)} (new : key ∉ keys front)
    (old value : A) (back : List (String × A)) :
    put key value (front ++ (key, old) :: back) = front ++ (key, value) :: back := by
  induction front with
  | nil => simp [put]
  | cons pair rest inductionHypothesis =>
      simp only [keys, List.map_cons, List.mem_cons, not_or] at new
      simp [put, Ne.symm new.1, inductionHypothesis new.2]

/-- Putting the value that a key has changes nothing. -/
theorem put_found {key : String} {value : A} {entries : List (String × A)}
    (found : find? key entries = some value) : put key value entries = entries := by
  obtain ⟨front, back, _, split, changed⟩ := put_split found
  rw [changed, split]

/-- Of two values put under a key the second stays. -/
theorem put_put (key : String) (first second : A) (entries : List (String × A)) :
    put key second (put key first entries) = put key second entries := by
  induction entries with
  | nil => simp [put]
  | cons pair rest inductionHypothesis =>
      by_cases same : pair.1 = key
      · simp [put, same]
      · simp [put, same, inductionHypothesis]

/-- Values put under two keys that are there can be put in either order. -/
theorem put_comm {first second : String} (different : first ≠ second) (value other : A)
    {entries : List (String × A)} (firstPresent : first ∈ keys entries)
    (secondPresent : second ∈ keys entries) :
    put first value (put second other entries) = put second other (put first value entries) := by
  induction entries with
  | nil => cases firstPresent
  | cons pair rest inductionHypothesis =>
      obtain ⟨name, old⟩ := pair
      simp only [keys, List.map_cons, List.mem_cons] at firstPresent secondPresent
      by_cases isFirst : name = first
      · simp [put, isFirst, different]
      · by_cases isSecond : name = second
        · have apart : ¬ second = first := Ne.symm different
          simp [put, isSecond, apart]
        · have tail := inductionHypothesis (firstPresent.resolve_left (Ne.symm isFirst))
            (secondPresent.resolve_left (Ne.symm isSecond))
          simp [put, isFirst, isSecond, tail]

/-- A new key comes last. -/
theorem put_new {key : String} {entries : List (String × A)} (new : key ∉ keys entries)
    (value : A) : put key value entries = entries ++ [(key, value)] := by
  induction entries with
  | nil => rfl
  | cons pair rest inductionHypothesis =>
      simp only [keys, List.map_cons, List.mem_cons, not_or] at new
      simp [put, Ne.symm new.1, inductionHypothesis new.2]

/-- Pairs with new and distinct keys are put behind the entries. -/
theorem foldl_put {pairs entries : List (String × A)} (distinct : (keys (entries ++ pairs)).Nodup) :
    pairs.foldl (fun entries pair => put pair.1 pair.2 entries) entries = entries ++ pairs := by
  induction pairs generalizing entries with
  | nil => simp
  | cons pair rest inductionHypothesis =>
      have new : pair.1 ∉ keys entries := by
        simp only [keys, List.map_append, List.nodup_append, List.map_cons] at distinct
        exact fun member => distinct.2.2 _ member _ List.mem_cons_self rfl
      rw [List.foldl_cons, put_new new, inductionHypothesis (by simpa using distinct)]
      simp

/-- Pairs with distinct keys are the entries that they make. -/
theorem ofPairs_of_nodup {pairs : List (String × A)} (distinct : (keys pairs).Nodup) :
    ofPairs pairs = pairs :=
  foldl_put distinct

/-- A key that is found is one of the keys. -/
theorem mem_keys_of_find? {key : String} {value : A} {entries : List (String × A)}
    (found : find? key entries = some value) : key ∈ keys entries := by
  obtain ⟨front, back, -, split, -⟩ := put_split found
  simp [split, keys]

/-- A key that is one of the keys is found. -/
theorem exists_find?_of_mem {key : String} {entries : List (String × A)}
    (member : key ∈ keys entries) : ∃ value, find? key entries = some value := by
  induction entries with
  | nil => cases member
  | cons pair rest inductionHypothesis =>
      rw [find?_cons]
      split
      · exact ⟨_, rfl⟩
      · rename_i different
        exact inductionHypothesis ((List.mem_cons.mp member).resolve_left (Ne.symm different))

/-- A key that is none of the keys is not found. -/
theorem find?_eq_none_of_notMem {key : String} {entries : List (String × A)}
    (new : key ∉ keys entries) : find? key entries = none := by
  cases found : find? key entries with
  | none => rfl
  | some value => exact absurd (mem_keys_of_find? found) new

/-- Where the keys are distinct, a key has a value exactly when the two are a pair. -/
theorem find?_eq_some_iff {key : String} {value : A} {entries : List (String × A)}
    (distinct : (keys entries).Nodup) :
    find? key entries = some value ↔ (key, value) ∈ entries := by
  induction entries with
  | nil => simp
  | cons pair rest inductionHypothesis =>
      obtain ⟨name, first⟩ := pair
      obtain ⟨new, restDistinct⟩ : name ∉ keys rest ∧ (keys rest).Nodup := by
        simpa [keys] using distinct
      rw [find?_cons, List.mem_cons]
      by_cases same : name = key
      · subst same
        have absent : (name, value) ∉ rest := fun member =>
          new (List.mem_map.mpr ⟨_, member, rfl⟩)
        simp [absent, eq_comm]
      · have apart : ¬ key = name := Ne.symm same
        simp [same, apart, inductionHypothesis restDistinct]

/-- Pairs with distinct keys give each key the same value in any order. -/
theorem find?_perm {first second : List (String × A)} (reordered : first.Perm second)
    (distinct : (keys first).Nodup) (key : String) : find? key first = find? key second := by
  have sameDistinct : (keys second).Nodup := (reordered.map Prod.fst).nodup_iff.mp distinct
  apply Option.ext
  intro value
  rw [find?_eq_some_iff distinct, find?_eq_some_iff sameDistinct]
  exact reordered.mem_iff

/-- Putting a value keeps the keys distinct. -/
theorem nodup_put {entries : List (String × A)} (distinct : (keys entries).Nodup) (key : String)
    (value : A) : (keys (put key value entries)).Nodup := by
  rw [keys_put]
  split
  · exact distinct
  · rename_i new
    refine List.nodup_append.mpr ⟨distinct, by simp, ?_⟩
    intro other member last isLast same
    rw [same, List.mem_singleton.mp isLast] at member
    exact new member

/-- The last of some pairs is put into the entries of the pairs before it. -/
theorem ofPairs_concat (front : List (String × A)) (last : String × A) :
    ofPairs (front ++ [last]) = put last.1 last.2 (ofPairs front) := by
  simp [ofPairs, List.foldl_append]

/-- The entries that pairs make have each key once, in the order in which the keys came first. -/
theorem keys_ofPairs (pairs : List (String × A)) :
    keys (ofPairs pairs) = (keys pairs).eraseDups := by
  induction pairs using List.reverseRecOn with
  | nil => rfl
  | append_singleton front last inductionHypothesis =>
      have split : keys (front ++ [last]) = keys front ++ [last.1] := by simp [keys]
      rw [ofPairs_concat, keys_put, inductionHypothesis, split, List.eraseDups_append]
      by_cases present : last.1 ∈ keys front
      · simp [present, List.removeAll]
      · simp [present, List.removeAll, List.eraseDups_cons]

/-- The value of a key in the entries that pairs make is that of the last pair with the key. -/
theorem find?_ofPairs (key : String) (pairs : List (String × A)) :
    find? key (ofPairs pairs) = find? key pairs.reverse := by
  induction pairs using List.reverseRecOn with
  | nil => rfl
  | append_singleton front last inductionHypothesis =>
      rw [ofPairs_concat, List.reverse_append, List.reverse_singleton, List.singleton_append,
        find?_cons]
      split
      · rename_i same
        rw [same, find?_put_same]
      · rename_i different
        rw [find?_put_other (Ne.symm different), inductionHypothesis]

/-- Putting values one after another keeps the keys distinct. -/
theorem nodup_foldl_put {B : Type} (key : B → String) (value : B → A) (items : List B)
    {entries : List (String × A)} (distinct : (keys entries).Nodup) :
    (keys (items.foldl (fun entries item => put (key item) (value item) entries)
      entries)).Nodup := by
  induction items generalizing entries with
  | nil => exact distinct
  | cons item rest inductionHypothesis => exact inductionHypothesis (nodup_put distinct _ _)

/-- The keys of the entries that pairs make are distinct. -/
theorem nodup_ofPairs (pairs : List (String × A)) : (keys (ofPairs pairs)).Nodup :=
  nodup_foldl_put Prod.fst Prod.snd pairs List.nodup_nil

/-- The entries that pairs make are some of the pairs. -/
theorem mem_of_mem_ofPairs {pair : String × A} {pairs : List (String × A)}
    (member : pair ∈ ofPairs pairs) : pair ∈ pairs := by
  have found := (find?_eq_some_iff (nodup_ofPairs pairs)).mpr member
  rw [find?_ofPairs] at found
  obtain ⟨front, back, -, split, -⟩ := put_split found
  rw [← List.mem_reverse, split]
  simp

/-- The keys that are left when one is erased come in their order. -/
theorem keys_erase (key : String) (entries : List (String × A)) :
    keys (erase key entries) = (keys entries).erase key := by
  induction entries with
  | nil => rfl
  | cons pair rest inductionHypothesis =>
      by_cases same : pair.1 = key
      · simp [erase, keys, same]
      · have tail : keys (erase key (pair :: rest)) = pair.1 :: keys (erase key rest) := by
          simp [erase, keys, same]
        rw [tail, inductionHypothesis]
        simp [keys, List.erase_cons_tail, same]

/-- Erasing a key keeps the keys distinct. -/
theorem nodup_erase {entries : List (String × A)} (distinct : (keys entries).Nodup)
    (key : String) : (keys (erase key entries)).Nodup := by
  rw [keys_erase]
  exact distinct.erase key

/-- The values of other keys stay when a key is erased. -/
theorem find?_erase_other {key other : String} (different : other ≠ key)
    (entries : List (String × A)) : find? other (erase key entries) = find? other entries := by
  induction entries with
  | nil => rfl
  | cons pair rest inductionHypothesis =>
      by_cases same : pair.1 = key
      · have apart : ¬ key = other := Ne.symm different
        simp [erase, find?, same, apart]
      · simp [erase, find?, same, inductionHypothesis]

/-- A key is gone once it is erased, if it was there once only. -/
theorem find?_erase_same {entries : List (String × A)} (distinct : (keys entries).Nodup)
    (key : String) : find? key (erase key entries) = none := by
  cases found : find? key (erase key entries) with
  | none => rfl
  | some value =>
      have member := mem_keys_of_find? found
      rw [keys_erase] at member
      exact absurd member distinct.not_mem_erase

end Graft.Entries
