import Mathlib.Data.List.Nodup
import QueryGateway.Proofs.Dictionary
import QueryGateway.Proofs.Remote.Headers

/-!
# Declared headers over those of the credentials

The headers that a system declares are set over those that its credentials
give, by the name as it is written.  A name is sent in lower case.  So a
declared header takes the place of the one that is written like it, and is sent
beside the one that is written in another case.
-/

namespace QueryGateway
namespace Remote

open Catalog

/-- No two names are the same in lower case. -/
def Apart (headers : Headers) : Prop :=
  (headers.map fun header => lowerName header.1).Nodup

instance (headers : Headers) : Decidable (Apart headers) :=
  inferInstanceAs (Decidable (List.Nodup _))

/-- The values that are sent under a name, in whatever case it is written. -/
def valuesUnder (name : String) (sent : List (String × String)) : List String :=
  (sent.filter fun header => header.1 == lowerName name).map Prod.snd

def respelled (name : String) (headers : Headers) : Headers :=
  headers.filter fun header => lowerName header.1 == lowerName name && header.1 != name

/-!
## Names apart
-/

theorem names_asSent (headers : Headers) :
    (asSent headers).map Prod.fst = headers.map fun header => lowerName header.1 := by
  unfold asSent
  rw [List.map_map]
  rfl

theorem nodup_names_of_apart {headers : Headers} (hapart : Apart headers) :
    (headers.map Prod.fst).Nodup := by
  have hnames : (headers.map fun header => lowerName header.1) =
      (headers.map Prod.fst).map lowerName := by
    rw [List.map_map]
    rfl
  unfold Apart at hapart
  rw [hnames] at hapart
  exact hapart.of_map _

theorem apart_iff_of_perm {headers others : Headers} (hperm : headers.Perm others) :
    Apart headers ↔ Apart others :=
  (hperm.map _).nodup_iff

theorem eq_of_apart {headers : Headers} (hapart : Apart headers) {a b : String × String}
    (ha : a ∈ headers) (hb : b ∈ headers) (hname : lowerName a.1 = lowerName b.1) : a = b :=
  List.inj_on_of_nodup_map hapart ha hb hname

theorem written_iff_of_apart {extra : Headers} (hextra : Apart extra)
    {header given : String × String} (hgiven : given ∈ extra)
    (hname : lowerName header.1 = lowerName given.1) :
    header.1 ∈ extra.map Prod.fst ↔ header.1 = given.1 := by
  constructor
  · intro hmem
    rcases List.mem_map.mp hmem with ⟨other, hother, hwritten⟩
    rw [← hwritten] at hname ⊢
    rw [eq_of_apart hextra hother hgiven hname]
  · intro hwritten
    rw [hwritten]
    exact List.mem_map.mpr ⟨given, hgiven, rfl⟩

/-!
## The headers of credentials
-/

/-- Credentials give one header, none, or those that they declare themselves. -/
theorem credentialHeaders_cases {auth : Credentials} {own : Headers}
    (hown : credentialHeaders auth = .ok own) :
    own.length ≤ 1 ∨ exists custom, auth = .custom custom ∧ own = Dictionary.ofList custom := by
  cases auth with
  | none =>
      cases hown
      exact .inl (Nat.zero_le 1)
  | basic username password =>
      rcases ok_of_bind hown with ⟨name, -, hown⟩
      rcases ok_of_bind hown with ⟨word, -, hown⟩
      cases hown
      exact .inl (Nat.le_refl 1)
  | bearer token =>
      rcases ok_of_bind hown with ⟨given, -, hown⟩
      cases hown
      exact .inl (Nat.le_refl 1)
  | apiKey key headerName =>
      rcases ok_of_bind hown with ⟨given, -, hown⟩
      cases hown
      exact .inl (Nat.le_refl 1)
  | oauth accessToken refreshToken =>
      rcases ok_of_bind hown with ⟨given, -, hown⟩
      cases hown
      exact .inl (Nat.le_refl 1)
  | custom custom =>
      cases hown
      exact .inr ⟨custom, rfl, rfl⟩

theorem sorted_and_apart_of_length_le_one {own : Headers} (hlength : own.length ≤ 1) :
    Dictionary.Sorted own ∧ Apart own := by
  cases own with
  | nil => exact ⟨Dictionary.sorted_nil, List.nodup_nil⟩
  | cons header rest =>
      rw [List.length_eq_zero_iff.mp (Nat.le_zero.mp (Nat.le_of_succ_le_succ hlength))]
      exact ⟨List.pairwise_singleton _ _, List.nodup_singleton _⟩

theorem sorted_and_apart_credentialHeaders {auth : Credentials} {own : Headers}
    (hcustom : forall custom, auth = .custom custom -> Apart custom)
    (hown : credentialHeaders auth = .ok own) : Dictionary.Sorted own ∧ Apart own := by
  rcases credentialHeaders_cases hown with hlength | ⟨custom, hauth, hset⟩
  · exact sorted_and_apart_of_length_le_one hlength
  · have hapart := hcustom custom hauth
    rw [hset]
    refine ⟨Dictionary.sorted_ofList custom, ?_⟩
    exact (apart_iff_of_perm (Dictionary.ofList_perm (nodup_names_of_apart hapart))).mpr hapart

/-!
## What is sent
-/

/-- The headers that the declared ones leave of the credentials'. -/
def left (extra own : Headers) : Headers :=
  own.filter fun header => header.1 ∉ extra.map Prod.fst

theorem apart_left {own : Headers} (hown : Apart own) (extra : Headers) : Apart (left extra own) :=
  (List.Sublist.map _ List.filter_sublist).nodup hown

theorem left_under {extra : Headers} (hextra : Apart extra) {name value : String}
    (hmem : (name, value) ∈ extra) (own : Headers) :
    (left extra own).filter (fun header => lowerName header.1 == lowerName name) =
      respelled name own := by
  unfold left respelled
  rw [List.filter_filter]
  apply List.filter_congr
  intro header hheader
  by_cases hname : lowerName header.1 = lowerName name
  · rw [hname, beq_self_eq_true, Bool.true_and, Bool.true_and, Bool.eq_iff_iff, decide_eq_true_iff,
      bne_iff_ne]
    exact not_congr (written_iff_of_apart hextra hmem hname)
  · rw [beq_eq_false_iff_ne.mpr hname, Bool.false_and, Bool.false_and]

theorem filter_under_of_apart {extra : Headers} (hextra : Apart extra) {name value : String}
    (hmem : (name, value) ∈ extra) :
    extra.filter (fun header => lowerName header.1 == lowerName name) = [(name, value)] := by
  induction extra with
  | nil => cases hmem
  | cons header rest ih =>
      rcases List.nodup_cons.mp hextra with ⟨hfirst, hrest⟩
      rcases List.mem_cons.mp hmem with hsame | hmem
      · rw [← hsame] at hfirst ⊢
        have hkept : (lowerName name == lowerName name) = true := beq_self_eq_true _
        rw [List.filter_cons, if_pos hkept]
        congr 1
        apply List.filter_eq_nil_iff.mpr
        intro other hother hname
        exact hfirst (List.mem_map.mpr ⟨other, hother, eq_of_beq hname⟩)
      · have hname : lowerName header.1 ≠ lowerName name := by
          intro hname
          exact hfirst (List.mem_map.mpr ⟨_, hmem, hname.symm⟩)
        rw [List.filter_cons, if_neg (mt eq_of_beq hname)]
        exact ih hrest hmem

theorem buildHeaders_perm {auth : Credentials} {extra headers : Headers}
    (hcustom : forall custom, auth = .custom custom -> Apart custom) (hextra : Apart extra)
    (hbuilt : buildHeaders auth extra = .ok headers) :
    exists own, credentialHeaders auth = .ok own ∧ Apart own ∧
      headers.Perm (extra ++ left extra own) := by
  unfold buildHeaders at hbuilt
  cases hown : credentialHeaders auth with
  | error failure =>
      rw [hown] at hbuilt
      cases hbuilt
  | ok own =>
      rw [hown] at hbuilt
      cases hbuilt
      rcases sorted_and_apart_credentialHeaders hcustom hown with ⟨hsorted, hapart⟩
      exact ⟨own, rfl, hapart,
        Dictionary.insertAll_perm_append_filter (nodup_names_of_apart hextra) hsorted⟩

theorem apart_append_left_iff {extra own : Headers} (hextra : Apart extra) (hown : Apart own) :
    Apart (extra ++ left extra own) ↔
      forall header, header ∈ extra -> respelled header.1 own = [] := by
  unfold Apart
  rw [List.map_append, List.nodup_append]
  constructor
  · rintro ⟨-, -, hdisjoint⟩ header hmem
    rw [← left_under hextra hmem, List.filter_eq_nil_iff]
    intro other hother hname
    exact hdisjoint _ (List.mem_map_of_mem hmem) _ (List.mem_map_of_mem hother)
      (eq_of_beq hname).symm
  · intro hnone
    refine ⟨hextra, apart_left hown extra, ?_⟩
    intro first hfirst second hsecond hsame
    rcases List.mem_map.mp hfirst with ⟨header, hmem, rfl⟩
    rcases List.mem_map.mp hsecond with ⟨other, hother, rfl⟩
    have hunder := List.filter_eq_nil_iff.mp
      ((left_under hextra hmem own).trans (hnone header hmem)) other hother
    exact hunder (beq_iff_eq.mpr hsame.symm)

theorem valuesUnder_asSent (name : String) (headers : Headers) :
    valuesUnder name (asSent headers) =
      (headers.filter fun header => lowerName header.1 == lowerName name).map Prod.snd := by
  unfold valuesUnder asSent
  rw [List.filter_map, List.map_map]
  rfl

/--
Each declared header is sent.  It is the only one under its name exactly if the
credentials give none of that name in another case, and that is also when no
name is sent twice.
-/
theorem sent_once_unless_respelled {auth : Credentials} {extra headers : Headers}
    {sent : List (String × String)}
    (hcustom : forall custom, auth = .custom custom -> Apart custom) (hextra : Apart extra)
    (hbuilt : buildHeaders auth extra = .ok headers) (hsent : sentHeaders headers = .ok sent) :
    exists own, credentialHeaders auth = .ok own ∧
      ((sent.map Prod.fst).Nodup ↔
        forall header, header ∈ extra -> respelled header.1 own = []) ∧
      forall name value, (name, value) ∈ extra ->
        (valuesUnder name sent).Perm (value :: (respelled name own).map Prod.snd) := by
  rcases buildHeaders_perm hcustom hextra hbuilt with ⟨own, hown, hapart, hperm⟩
  rw [sentHeaders_eq hsent, names_asSent]
  refine ⟨own, hown, ?_, ?_⟩
  · exact (apart_iff_of_perm hperm).trans (apart_append_left_iff hextra hapart)
  · intro name value hmem
    rw [valuesUnder_asSent]
    have hunder := (hperm.filter fun header => lowerName header.1 == lowerName name).map Prod.snd
    rwa [List.filter_append, filter_under_of_apart hextra hmem, left_under hextra hmem] at hunder

/-- A declared header replaces the one that the credentials declare in the same spelling. -/
theorem sent_once_unless_respelled_accept :
    let auth := Credentials.custom [("Accept", "text/plain"), ("X-Org", "acme")]
    let sent := [("accept", "application/json"), ("x-org", "acme")]
    (forall custom, auth = .custom custom -> Apart custom) ∧
      Apart [("Accept", "application/json")] ∧
      exists headers, buildHeaders auth [("Accept", "application/json")] = .ok headers ∧
        sentHeaders headers = .ok sent ∧ (sent.map Prod.fst).Nodup ∧
        (valuesUnder "Accept" sent).Perm ["application/json"] := by
  intro auth sent
  have hcustom : forall custom, auth = .custom custom -> Apart custom := by
    intro custom hsame
    rw [← Credentials.custom.inj hsame]
    decide
  have hextra : Apart [("Accept", "application/json")] := by decide
  have hbuilt : buildHeaders auth [("Accept", "application/json")] =
      .ok [("Accept", "application/json"), ("X-Org", "acme")] := by
    decide
  have hsent : sentHeaders [("Accept", "application/json"), ("X-Org", "acme")] = .ok sent := by
    decide
  rcases sent_once_unless_respelled hcustom hextra hbuilt hsent with
    ⟨own, hown, honce, hvalues⟩
  cases hown
  refine ⟨hcustom, hextra, _, hbuilt, hsent, honce.mpr ?_, ?_⟩
  · decide
  · exact hvalues "Accept" "application/json" List.mem_cons_self

/-- A declared header in another spelling is sent together with the one of the credentials. -/
theorem sent_twice_authorization :
    Apart [("authorization", "Token extra")] ∧
      exists headers sent,
        buildHeaders (.bearer (some "t0k")) [("authorization", "Token extra")] = .ok headers ∧
          sentHeaders headers = .ok sent ∧ ¬ (sent.map Prod.fst).Nodup ∧
          valuesUnder "authorization" sent = ["Bearer t0k", "Token extra"] :=
  ⟨by decide, [("Authorization", "Bearer t0k"), ("authorization", "Token extra")],
    [("authorization", "Bearer t0k"), ("authorization", "Token extra")], by decide, by decide,
    by decide, by decide⟩

end Remote
end QueryGateway
