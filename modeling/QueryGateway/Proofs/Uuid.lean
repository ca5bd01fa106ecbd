import QueryGateway.Uuid

/-!
# Identifiers and their texts

Without its hyphens the text of an identifier is the row of its digits, and it
is read as the identifier.
-/

namespace QueryGateway
namespace Uuid

theorem flatten_cut (lengths : List Nat) (text : List Char) :
    (cut lengths text).flatten = text.take (lengths.foldr (fun n total => n + total) 0) := by
  induction lengths generalizing text with
  | nil => simp [cut]
  | cons n lengths ih =>
      rw [cut, List.flatten_cons, ih, List.foldr_cons, List.take_add]

theorem filter_intercalate {p : Char -> Bool} {c : Char} (hc : p c = false)
    (groups : List (List Char)) :
    (List.intercalate [c] groups).filter p = groups.flatten.filter p := by
  induction groups with
  | nil => rfl
  | cons group rest ih =>
      cases rest with
      | nil => simp
      | cons next rest =>
          rw [List.intercalate_cons_cons, List.flatten_cons, List.filter_append,
            List.filter_append, List.filter_append, ih]
          simp [hc]

theorem digitChar_ne_hyphen (d : Fin 16) : digitChar d ≠ '-' := by
  revert d
  decide

theorem digitChar_injective : Function.Injective digitChar := by
  unfold Function.Injective
  decide

theorem filter_chars (id : Uuid) : id.chars.filter (· != '-') = id.digits.map digitChar := by
  have hlength :
      (id.digits.map digitChar).length = groupLengths.foldr (fun n total => n + total) 0 := by
    rw [List.length_map, id.length_eq]
    rfl
  unfold chars
  rw [filter_intercalate (by decide), flatten_cut, ← hlength, List.take_length]
  apply List.filter_eq_self.mpr
  intro c hmem
  rcases List.mem_map.mp hmem with ⟨d, _, hd⟩
  rw [← hd]
  exact bne_iff_ne.mpr (digitChar_ne_hyphen d)

theorem render_injective : Function.Injective render := by
  intro a b hsame
  have hchars : a.chars = b.chars := String.ofList_injective hsame
  have hdigits : a.digits.map digitChar = b.digits.map digitChar := by
    rw [← filter_chars, ← filter_chars, hchars]
  have hlists := List.map_inj_right (fun _ _ h => digitChar_injective h) |>.mp hdigits
  rcases a with ⟨digits, hlength⟩
  rcases b with ⟨digits', hlength'⟩
  cases hlists
  rfl

/-!
# Reading what was written
-/

theorem digit?_digitChar (d : Fin 16) : digit? (digitChar d) = some d := by
  revert d
  decide

theorem ofHexChars?_digits (id : Uuid) : ofHexChars? (id.digits.map digitChar) = some id := by
  have hdigits : (id.digits.map digitChar).mapM digit? = some id.digits := by
    induction id.digits with
    | nil => rfl
    | cons d rest ih => simp [digit?_digitChar, ih]
  unfold ofHexChars?
  rw [hdigits, Option.bind_some, ofDigits?, dif_pos id.length_eq]

theorem map_length_cut {lengths : List Nat} {text : List Char}
    (hlength : text.length = lengths.foldr (fun n total => n + total) 0) :
    (cut lengths text).map List.length = lengths := by
  induction lengths generalizing text with
  | nil => rfl
  | cons n lengths ih =>
      rw [List.foldr_cons] at hlength
      rw [cut, List.map_cons, List.length_take, ih]
      · congr 1
        omega
      · rw [List.length_drop]
        omega

theorem byteLength_eq {text : List Char} (hascii : forall c, c ∈ text -> c.utf8Size = 1) :
    byteLength text = text.length := by
  have hcount (total : Nat) :
      text.foldl (fun total c => total + c.utf8Size) total = total + text.length := by
    induction text generalizing total with
    | nil => rfl
    | cons c rest ih =>
        rw [List.foldl_cons, hascii c List.mem_cons_self,
          ih (fun c hmem => hascii c (List.mem_cons_of_mem _ hmem)), List.length_cons]
        omega
  unfold byteLength
  rw [hcount, Nat.zero_add]

theorem utf8Size_digitChar (d : Fin 16) : (digitChar d).utf8Size = 1 := by
  revert d
  decide

theorem utf8Size_of_mem_chars {id : Uuid} {c : Char} (hmem : c ∈ id.chars) : c.utf8Size = 1 := by
  by_cases hhyphen : c = '-'
  · rw [hhyphen]
    rfl
  · have hdigit : c ∈ id.chars.filter (· != '-') :=
      List.mem_filter.mpr ⟨hmem, bne_iff_ne.mpr hhyphen⟩
    rw [filter_chars] at hdigit
    rcases List.mem_map.mp hdigit with ⟨d, _, hd⟩
    rw [← hd]
    exact utf8Size_digitChar d

theorem length_chars (id : Uuid) : id.chars.length = 36 := by
  have hlength : (id.digits.map digitChar).length = 32 := by
    rw [List.length_map, id.length_eq]
  simp only [chars, groupLengths, cut, List.intercalate_cons_cons, List.intercalate_singleton,
    List.length_append, List.length_take, List.length_drop, hlength]
  rfl

theorem parse_render (id : Uuid) : parse id.render = .ok id := by
  have hlength : (id.digits.map digitChar).length =
      groupLengths.foldr (fun n total => n + total) 0 := by
    rw [List.length_map, id.length_eq]
    rfl
  have hgroups : id.chars.splitOn '-' = cut groupLengths (id.digits.map digitChar) := by
    apply List.splitOn_intercalate
    · intro group hgroup hhyphen
      have hflat : '-' ∈ (cut groupLengths (id.digits.map digitChar)).flatten :=
        List.mem_flatten.mpr ⟨group, hgroup, hhyphen⟩
      rw [flatten_cut, ← hlength, List.take_length] at hflat
      rcases List.mem_map.mp hflat with ⟨d, _, hd⟩
      exact digitChar_ne_hyphen d hd
    · exact List.cons_ne_nil _ _
  have hhyphenated : ofHyphenated? id.chars = some id := by
    unfold ofHyphenated?
    rw [hgroups, if_pos (map_length_cut hlength), flatten_cut, ← hlength, List.take_length]
    exact ofHexChars?_digits id
  have hbytes : byteLength id.chars = 36 := by
    rw [byteLength_eq fun c hmem => utf8Size_of_mem_chars hmem, length_chars]
  unfold parse render
  rw [String.toList_ofList, parseChars, hbytes]
  simp only [hhyphenated, orExplain]

end Uuid
end QueryGateway
