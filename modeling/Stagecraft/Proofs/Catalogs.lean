import Mathlib.Data.List.Nodup
import Stagecraft.Catalog

/-!
# What catalogs hold

Entries are put one after the other, so what is said of all of them is shown along the list of
entries with the catalog before them left open.
-/

namespace Stagecraft

namespace Catalog

variable {α : Type}

theorem has_iff_mem_keys {m : Catalog α} {key : String} : m.has key ↔ key ∈ m.keys := by
  induction m with
  | nil => simp [has, keys]
  | cons e m ih =>
      obtain ⟨k, a⟩ := e
      by_cases h : k = key
      · simp [has, keys, get?, h]
      · have hne : ¬ key = k := fun h' => h h'.symm
        simpa [has, keys, get?, h, hne] using ih

/-- A new key comes last. -/
theorem put_of_not_has {m : Catalog α} {key : String} (a : α) (h : m.has key = false) :
    m.put key a = m ++ [(key, a)] := by
  induction m with
  | nil => rfl
  | cons e m ih =>
      obtain ⟨k, b⟩ := e
      by_cases hk : k = key
      · simp [has, get?, hk] at h
      · have hm : has m key = false := by simpa [has, get?, hk] using h
        rw [put, if_neg hk, ih hm]
        rfl

theorem keys_put (m : Catalog α) (key : String) (a : α) :
    (m.put key a).keys = if key ∈ m.keys then m.keys else m.keys ++ [key] := by
  induction m with
  | nil => rfl
  | cons e m ih =>
      obtain ⟨k, b⟩ := e
      by_cases hk : k = key
      · simp [put, keys, hk]
      · have hne : ¬ key = k := fun h => hk h.symm
        have hkeys : keys ((k, b) :: m) = k :: keys m := rfl
        rw [put, if_neg hk, hkeys]
        change k :: keys (put m key a) = _
        rw [ih]
        by_cases hmem : key ∈ keys m <;> simp [hmem, hne]

theorem mem_keys_put {m : Catalog α} {key other : String} {a : α} :
    other ∈ (m.put key a).keys ↔ other ∈ m.keys ∨ other = key := by
  rw [keys_put]
  split
  · rename_i hkey
    exact ⟨.inl, fun h => h.elim id fun hother => hother ▸ hkey⟩
  · rw [List.mem_append, List.mem_singleton]

theorem nodup_keys_nil : (keys ([] : Catalog α)).Nodup := List.nodup_nil

theorem nodup_keys_put {m : Catalog α} (h : m.keys.Nodup) (key : String) (a : α) :
    (m.put key a).keys.Nodup := by
  rw [keys_put]
  split
  · exact h
  · rename_i hkey
    exact List.nodup_append.2 ⟨h, List.nodup_singleton key, fun x hx y hy hxy =>
      hkey (List.mem_singleton.1 hy ▸ hxy ▸ hx)⟩

theorem nodup_keys_putNew {m : Catalog α} (h : m.keys.Nodup) (key : String) (a : α) :
    (m.putNew key a).keys.Nodup := by
  unfold putNew
  split
  · exact h
  · exact nodup_keys_put h key a

theorem nodup_keys_putAll {m : Catalog α} (h : m.keys.Nodup) (entries : List (String × α)) :
    (m.putAll entries).keys.Nodup := by
  induction entries generalizing m with
  | nil => exact h
  | cons e entries ih => exact ih (nodup_keys_put h e.1 e.2)

/-- Of the entries that are put for a key, the last one counts. -/
theorem get?_putAll (m : Catalog α) (entries : List (String × α)) (key : String) :
    (m.putAll entries).get? key =
      ((entries.filter (·.1 = key)).getLast?.map (·.2)).or (m.get? key) := by
  induction entries generalizing m with
  | nil => rfl
  | cons e entries ih =>
      obtain ⟨k, a⟩ := e
      change ((m.put k a).putAll entries).get? key = _
      rw [ih]
      by_cases hk : k = key
      · subst hk
        rw [get?_put_self, List.filter_cons_of_pos (by simp), List.getLast?_cons]
        cases (entries.filter (·.1 = k)).getLast? <;> simp
      · rw [get?_put_of_ne m a fun h => hk h.symm, List.filter_cons_of_neg (by simpa using hk)]

/-- A key that is there once has its value once. -/
theorem getLast?_filter_of_nodup {m : Catalog α} (h : m.keys.Nodup) (key : String) :
    (m.filter (·.1 = key)).getLast?.map (·.2) = m.get? key := by
  induction m with
  | nil => rfl
  | cons e m ih =>
      obtain ⟨k, a⟩ := e
      obtain ⟨hk, hm⟩ := List.nodup_cons.1 h
      by_cases hkey : k = key
      · subst hkey
        have hnil : m.filter (·.1 = k) = [] := by
          rw [List.filter_eq_nil_iff]
          intro e he hek
          exact hk (List.mem_map.2 ⟨e, he, by simpa using hek⟩)
        rw [List.filter_cons_of_pos (by simp), hnil]
        simp [get?]
      · rw [List.filter_cons_of_neg (by simpa using hkey), get?, if_neg hkey]
        exact ih hm

/-- Of catalogs that are put one after the other, the last one with a key counts. -/
theorem get?_foldl_putAll {ms : List (Catalog α)} (h : ∀ m ∈ ms, m.keys.Nodup) (m : Catalog α)
    (key : String) :
    (ms.foldl putAll m).get? key = (ms.filterMap (get? · key)).getLast?.or (m.get? key) := by
  induction ms generalizing m with
  | nil => rfl
  | cons p ms ih =>
      have hp : p.keys.Nodup := h p List.mem_cons_self
      rw [List.foldl_cons, ih (fun q hq => h q (List.mem_cons_of_mem p hq)), get?_putAll,
        getLast?_filter_of_nodup hp, ← Option.or_assoc]
      congr 1
      rw [List.filterMap_cons]
      cases p.get? key with
      | none => rw [Option.or_none]
      | some a => rw [List.getLast?_cons, Option.or_some]

theorem nodup_keys_foldl_putAll {m : Catalog α} (h : m.keys.Nodup) (ms : List (Catalog α)) :
    (ms.foldl putAll m).keys.Nodup := by
  induction ms generalizing m with
  | nil => exact h
  | cons p ms ih => exact ih (nodup_keys_putAll h p)

theorem get?_putNew (m : Catalog α) (key : String) (a : α) :
    (m.putNew key a).get? key = (m.get? key).or (some a) := by
  unfold putNew has
  cases h : m.get? key with
  | none => simp [get?_put_self]
  | some b => simp [h]

/-- The default is the last value that asks to be it, or else the first one of all. -/
theorem get?_byKey_default (key : α → String) (items : List α) :
    (byKey key items).get? defaultKey =
      ((items.filter (key · = defaultKey)).getLast?).or items.head? := by
  have hfold (m : Catalog α) :
      (items.foldl (fun m a => putNew (put m (key a) a) defaultKey a) m).get? defaultKey =
        ((items.filter (key · = defaultKey)).getLast?).or
          ((m.get? defaultKey).or items.head?) := by
    induction items generalizing m with
    | nil => simp
    | cons a items ih =>
        rw [List.foldl_cons, ih, get?_putNew]
        by_cases hk : key a = defaultKey
        · rw [hk, get?_put_self, List.filter_cons_of_pos (by simpa using hk), List.getLast?_cons]
          cases (items.filter (key · = defaultKey)).getLast? <;> simp
        · rw [get?_put_of_ne _ _ fun h => hk h.symm, List.filter_cons_of_neg (by simpa using hk)]
          cases m.get? defaultKey <;> simp
  exact hfold []

/-- A key that is not the default's leads to the last value with it. -/
theorem get?_byKey_of_ne (key : α → String) (items : List α) {k : String} (hk : k ≠ defaultKey) :
    (byKey key items).get? k = (items.filter (key · = k)).getLast? := by
  have hnew (m : Catalog α) (a : α) : (m.putNew defaultKey a).get? k = m.get? k := by
    unfold putNew
    split
    · rfl
    · exact get?_put_of_ne m a hk
  have hfold (m : Catalog α) :
      (items.foldl (fun m a => putNew (put m (key a) a) defaultKey a) m).get? k =
        ((items.filter (key · = k)).getLast?).or (m.get? k) := by
    induction items generalizing m with
    | nil => simp
    | cons a items ih =>
        rw [List.foldl_cons, ih, hnew]
        by_cases ha : key a = k
        · rw [ha, get?_put_self, List.filter_cons_of_pos (by simpa using ha), List.getLast?_cons]
          cases (items.filter (key · = k)).getLast? <;> simp
        · rw [get?_put_of_ne _ _ fun h => ha h.symm, List.filter_cons_of_neg (by simpa using ha)]
  rw [byKey, hfold, get?_nil, Option.or_none]

theorem nodup_keys_byKey (key : α → String) (items : List α) : (byKey key items).keys.Nodup := by
  have hfold (m : Catalog α) (hm : m.keys.Nodup) :
      (keys (items.foldl (fun m a => putNew (put m (key a) a) defaultKey a) m)).Nodup := by
    induction items generalizing m with
    | nil => exact hm
    | cons a items ih =>
        exact ih _ (nodup_keys_putNew (nodup_keys_put hm (key a) a) defaultKey a)
  exact hfold [] nodup_keys_nil

theorem mem_of_get? {m : Catalog α} {key : String} {a : α} (h : m.get? key = some a) :
    (key, a) ∈ m := by
  induction m with
  | nil => cases h
  | cons e m ih =>
      obtain ⟨k, b⟩ := e
      unfold get? at h
      split at h
      · rename_i hk
        cases h
        exact hk ▸ List.mem_cons_self
      · exact List.mem_cons_of_mem _ (ih h)

theorem get?_of_mem {m : Catalog α} (h : m.keys.Nodup) {key : String} {a : α}
    (hmem : (key, a) ∈ m) : m.get? key = some a := by
  induction m with
  | nil => cases hmem
  | cons e m ih =>
      obtain ⟨k, b⟩ := e
      obtain ⟨hk, hm⟩ := List.nodup_cons.1 h
      rcases List.mem_cons.1 hmem with hmem | hmem
      · cases hmem
        simp [get?]
      · have hkey : k ≠ key := by
          rintro rfl
          exact hk (List.mem_map.2 ⟨(k, a), hmem, rfl⟩)
        rw [get?, if_neg hkey]
        exact ih hm hmem

end Catalog

end Stagecraft
