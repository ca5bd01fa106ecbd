import Mathlib.Data.List.DropRight
import QueryGateway.Proofs.Net.Origin
import QueryGateway.Proofs.Remote.Headers
import QueryGateway.Proofs.Template

/-!
# Addresses below a base

An endpoint is put below the base address of its system unless it says where it
is itself, and that is decided when its placeholders have been filled in.  A
template that is not absolute can so become absolute, by the parameters alone,
if what stands in front of its first placeholder begins a scheme.
-/

namespace QueryGateway
namespace Remote

/-- A base address without its last slashes, alone or with a slash and more after it. -/
def Below (base address : String) : Prop :=
  address = trimBase base ∨ exists rest, address = trimBase base ++ "/" ++ rest

/-- What absolute endpoints begin with. -/
def schemeMarks : List (List Char) :=
  ["http://".toList, "https://".toList]

/-- A template whose first placeholder comes where a scheme may still be completed. -/
def Steerable (template : String) : Prop :=
  exists lead name written rest mark,
    Template.pieces template =
        lead.map Template.Piece.literal ++ Template.Piece.placeholder name written :: rest ∧
      mark ∈ schemeMarks ∧ lead <+: mark

theorem isAbsolute_iff (endpoint : String) :
    isAbsolute endpoint = true ↔ exists mark, mark ∈ schemeMarks ∧ mark <+: endpoint.toList := by
  simp [isAbsolute, schemeMarks]

theorem join_of_absolute {endpoint : String} (habsolute : isAbsolute endpoint = true)
    (base : String) : join base endpoint = endpoint := by
  rw [join, if_pos habsolute]

theorem below_join {endpoint : String} (hrelative : isAbsolute endpoint = false)
    (base : String) : Below base (join base endpoint) := by
  rw [join, hrelative]
  simp only [Bool.false_eq_true, if_false]
  split
  · exact .inl rfl
  · exact .inr ⟨_, rfl⟩

/-!
# Templates that can become absolute
-/

theorem toList_fill (parameters : Members) (template : String) :
    (Template.fill parameters template).toList =
      (Template.pieces template).flatMap (Template.Piece.fill parameters) := by
  rw [Template.fill_eq_fillPieces, Template.toList_fillPieces (Template.cut_piecesFrom _)]
  rfl

/--
What a filled text begins with is what its template begins with, or else a
placeholder comes before all of it has been seen.
-/
theorem prefix_of_filled (parameters : Members) (mark : List Char)
    (pieces : List Template.Piece)
    (hmark : mark <+: pieces.flatMap (Template.Piece.fill parameters)) :
    mark <+: pieces.flatMap Template.Piece.written ∨
      exists lead name written rest,
        pieces = lead.map Template.Piece.literal ++ Template.Piece.placeholder name written :: rest ∧
          lead <+: mark := by
  induction pieces generalizing mark with
  | nil => exact .inl hmark
  | cons piece pieces ih =>
      cases piece with
      | placeholder name written => exact .inr ⟨[], name, written, pieces, rfl, List.nil_prefix⟩
      | literal c =>
          cases mark with
          | nil => exact .inl List.nil_prefix
          | cons m mark =>
              rw [List.flatMap_cons] at hmark
              rcases List.cons_prefix_cons.mp hmark with ⟨hfirst, hrest⟩
              subst hfirst
              rcases ih mark hrest with hwritten | ⟨lead, name, written, rest, hpieces, hlead⟩
              · exact .inl (List.cons_prefix_cons.mpr ⟨rfl, hwritten⟩)
              · exact .inr ⟨m :: lead, name, written, rest, by rw [hpieces]; rfl,
                  List.cons_prefix_cons.mpr ⟨rfl, hlead⟩⟩

theorem steerable_of_filled {template : String} (hrelative : isAbsolute template = false)
    {parameters : Members} (hfilled : isAbsolute (Template.fill parameters template) = true) :
    Steerable template := by
  rcases (isAbsolute_iff _).mp hfilled with ⟨mark, hmark, hbegins⟩
  rw [toList_fill] at hbegins
  rcases prefix_of_filled parameters mark _ hbegins with
    hwritten | ⟨lead, name, written, rest, hpieces, hlead⟩
  · have hcut : Template.Cut template.toList (Template.pieces template) :=
      Template.cut_piecesFrom _
    rw [hcut.flatMap_written] at hwritten
    have habsolute := (isAbsolute_iff template).mpr ⟨mark, hmark, hwritten⟩
    rw [hrelative] at habsolute
    cases habsolute
  · exact ⟨lead, name, written, rest, mark, hpieces, hmark, hlead⟩

theorem fill_literals (parameters : Members) (text : List Char) :
    (text.map Template.Piece.literal).flatMap (Template.Piece.fill parameters) = text := by
  induction text with
  | nil => rfl
  | cons c text ih => rw [List.map_cons, List.flatMap_cons, ih]; rfl

theorem exists_fill_of_steerable {template : String} (hsteerable : Steerable template) :
    exists mark, mark ∈ schemeMarks ∧ forall text : List Char,
      exists parameters, mark ++ text <+: (Template.fill parameters template).toList := by
  rcases hsteerable with ⟨lead, name, written, rest, mark, hpieces, hmark, missing, hlead⟩
  refine ⟨mark, hmark, ?_⟩
  intro text
  let parameters : Members := [(name, .text (String.ofList (missing ++ text)))]
  have hvalue : (Template.Piece.placeholder name written).fill parameters = missing ++ text := by
    simp [Template.Piece.fill, parameters, Dictionary.find?_cons, Rows.asText]
  refine ⟨parameters, rest.flatMap (Template.Piece.fill parameters), ?_⟩
  rw [toList_fill, hpieces, List.flatMap_append, fill_literals, List.flatMap_cons, hvalue, ← hlead]
  simp

theorem exists_absolute_iff {template : String} (hrelative : isAbsolute template = false) :
    (exists parameters, isAbsolute (Template.fill parameters template) = true) ↔
      Steerable template := by
  constructor
  · intro hexists
    rcases hexists with ⟨parameters, hfilled⟩
    exact steerable_of_filled hrelative hfilled
  · intro hsteerable
    rcases exists_fill_of_steerable hsteerable with ⟨mark, hmark, htext⟩
    rcases htext [] with ⟨parameters, hbegins⟩
    rw [List.append_nil] at hbegins
    exact ⟨parameters, (isAbsolute_iff _).mpr ⟨mark, hmark, hbegins⟩⟩

theorem head?_of_steerable {template : String} (hsteerable : Steerable template) :
    template.toList.head? = some 'h' ∨ template.toList.head? = some '\x7b' := by
  rcases hsteerable with ⟨lead, name, written, rest, mark, hpieces, hmark, hlead⟩
  have hcut : Template.Cut template.toList (Template.pieces template) :=
    Template.cut_piecesFrom _
  rw [hpieces] at hcut
  cases lead with
  | nil =>
      generalize template.toList = text at hcut ⊢
      cases hcut with
      | placeholder hspells hrest =>
          rcases hspells.braced with ⟨before, after, _, _, hwritten⟩
          exact .inr (by simp [hwritten])
  | cons c lead =>
      generalize template.toList = text at hcut ⊢
      cases hcut with
      | literal hplain hrest =>
          rcases hlead with ⟨missing, hmarked⟩
          have hfirst : mark.head? = some 'h' := by
            rcases List.mem_cons.mp hmark with hplainMark | hsecure
            · rw [hplainMark]
              rfl
            · rw [List.mem_singleton.mp hsecure]
              rfl
          rw [← hmarked] at hfirst
          exact .inl hfirst

/-!
# Leaving a base
-/

theorem toList_trimBase (base : String) :
    (trimBase base).toList = base.toList.rdropWhile (· = '/') :=
  String.toList_ofList

theorem getLast?_trimBase (base : String) : (trimBase base).toList.getLast? ≠ some '/' := by
  intro hlast
  rw [toList_trimBase] at hlast
  rcases List.getLast?_eq_some_iff.mp hlast with ⟨front, hfront⟩
  have hnonempty : base.toList.rdropWhile (· = '/') ≠ [] := by simp [hfront]
  have hnot := List.rdropWhile_last_not (fun c : Char => decide (c = '/')) base.toList hnonempty
  simp [hfront] at hnot

theorem Below.eq_or_prefix {base address : String} (hbelow : Below base address) :
    address = trimBase base ∨ (trimBase base).toList ++ ['/'] <+: address.toList := by
  rcases hbelow with hsame | ⟨rest, hmore⟩
  · exact .inl hsame
  · exact .inr ⟨rest.toList, by simp [hmore]⟩

theorem of_slash_in_mark {mark text : List Char} (hmark : mark ∈ schemeMarks)
    (hslash : text ++ ['/'] <+: mark) :
    text = "http:".toList ∨ text = "https:".toList ∨ text.getLast? = some '/' := by
  have hfinite : forall mark, mark ∈ schemeMarks -> forall k, k < 9 ->
      mark.take k ++ ['/'] <+: mark -> mark.take k = "http:".toList ∨
        mark.take k = "https:".toList ∨ (mark.take k).getLast? = some '/' := by
    decide
  have hlong : forall mark, mark ∈ schemeMarks -> mark.length < 9 := by
    decide
  have htake : text = mark.take text.length :=
    List.prefix_iff_eq_take.mp ((List.prefix_append text ['/']).trans hslash)
  have hbound : text.length < 9 := by
    have hlength := hslash.length_le
    have hmarkLength := hlong mark hmark
    rw [List.length_append] at hlength
    omega
  rw [htake] at hslash ⊢
  exact hfinite mark hmark text.length hbound hslash

theorem getLast?_of_mem_schemeMarks {mark : List Char} (hmark : mark ∈ schemeMarks) :
    mark.getLast? = some '/' := by
  have hfinite : forall mark, mark ∈ schemeMarks -> mark.getLast? = some '/' := by
    decide
  exact hfinite mark hmark

theorem prefix_of_not_longer {front mark text : List Char} {c : Char} (hfront : front <+: text)
    (hmark : mark ++ [c] <+: text) (hnotLonger : ¬ mark ++ [c] <+: front) : front <+: mark := by
  rcases List.prefix_or_prefix_of_prefix hfront hmark with hshort | hlong
  · rcases List.prefix_concat_iff.mp hshort with hsame | hwithin
    · exact absurd (hsame ▸ List.prefix_refl _) hnotLonger
    · exact hwithin
  · exact absurd hlong hnotLonger

/-- After a scheme mark one more character can be chosen that leads away from a base. -/
theorem exists_outside {base : String} (hhttp : trimBase base ≠ "http:")
    (hhttps : trimBase base ≠ "https:") {mark : List Char} (hmark : mark ∈ schemeMarks) :
    exists c, forall address : String, mark ++ [c] <+: address.toList -> ¬ Below base address := by
  have hlast := getLast?_trimBase base
  have hnoHttp : (trimBase base).toList ≠ "http:".toList :=
    fun hsame => hhttp (String.toList_injective hsame)
  have hnoHttps : (trimBase base).toList ≠ "https:".toList :=
    fun hsame => hhttps (String.toList_injective hsame)
  generalize hfront : (trimBase base).toList = front at hlast hnoHttp hnoHttps
  have hother : exists c, front[mark.length]? ≠ some c := by
    by_cases ha : front[mark.length]? = some 'a'
    · exact ⟨'b', by rw [ha]; decide⟩
    · exact ⟨'a', ha⟩
  rcases hother with ⟨c, hc⟩
  refine ⟨c, ?_⟩
  intro address hbegins hbelow
  have hfrontBegins : front <+: address.toList := by
    rcases hbelow.eq_or_prefix with hsame | hmore
    · exact ⟨[], by rw [List.append_nil, hsame, hfront]⟩
    · rw [hfront] at hmore
      exact (List.prefix_append front ['/']).trans hmore
  have hnotLonger : ¬ mark ++ [c] <+: front := by
    rintro ⟨rest, hrest⟩
    rw [← hrest] at hc
    simp at hc
  -- The base ends within the mark, so a slash that follows it is one of the mark, or the last one.
  have hinMark : front <+: mark := prefix_of_not_longer hfrontBegins hbegins hnotLonger
  rcases hbelow.eq_or_prefix with hsame | hmore
  · rw [hsame, hfront] at hbegins
    exact hnotLonger hbegins
  · rw [hfront] at hmore
    have hslash : front ++ ['/'] <+: mark ++ [c] := by
      apply List.prefix_of_prefix_length_le hmore hbegins
      have hlength := hinMark.length_le
      simp only [List.length_append, List.length_singleton]
      omega
    rcases List.prefix_concat_iff.mp hslash with hsame | hslash
    · have hall : front = mark := (List.append_inj' hsame rfl).left
      rw [hall, getLast?_of_mem_schemeMarks hmark] at hlast
      exact hlast rfl
    · rcases of_slash_in_mark hmark hslash with hhttp | hhttps | hends
      · exact hnoHttp hhttp
      · exact hnoHttps hhttps
      · exact hlast hends

theorem below_of_not_steerable {template : String} (hrelative : isAbsolute template = false)
    (hfixed : ¬ Steerable template) (base : String) (parameters : Members) :
    Below base (addressOf base template parameters) := by
  apply below_join
  cases hfilled : isAbsolute (Template.fill parameters template) with
  | false => rfl
  | true => exact absurd (steerable_of_filled hrelative hfilled) hfixed

theorem below_addressOf_iff {base template : String} (hhttp : trimBase base ≠ "http:")
    (hhttps : trimBase base ≠ "https:") (hrelative : isAbsolute template = false) :
    (forall parameters, Below base (addressOf base template parameters)) ↔
      ¬ Steerable template := by
  constructor
  · intro hbelow hsteerable
    rcases exists_fill_of_steerable hsteerable with ⟨mark, hmark, htext⟩
    rcases exists_outside hhttp hhttps hmark with ⟨c, hc⟩
    rcases htext [c] with ⟨parameters, hbegins⟩
    have habsolute : isAbsolute (Template.fill parameters template) = true :=
      (isAbsolute_iff _).mpr ⟨mark, hmark, (List.prefix_append mark [c]).trans hbegins⟩
    have haddress : addressOf base template parameters = Template.fill parameters template :=
      join_of_absolute habsolute base
    exact hc _ (haddress ▸ hbegins) (hbelow parameters)
  · intro hfixed parameters
    exact below_of_not_steerable hrelative hfixed base parameters

/-!
# Hosts
-/

theorem toList_base (base : String) :
    exists slashes, base.toList = (trimBase base).toList ++ slashes ∧
      forall c, c ∈ slashes -> c = '/' := by
  refine ⟨base.toList.rtakeWhile (· = '/'), ?_, ?_⟩
  · rw [toList_trimBase, List.rdropWhile, List.rtakeWhile, ← List.reverse_append,
      List.takeWhile_append_dropWhile, List.reverse_reverse]
  · intro c hmem
    have hslash := List.mem_takeWhile_imp (List.mem_reverse.mp hmem)
    exact of_decide_eq_true hslash

theorem sameOrigin_of_below {base address : String} (hbelow : Below base address)
    (hvisible : Net.Url.Visible base.toList) {a b : Net.Url} (ha : Net.Url.parse? base = some a)
    (hhosted : Net.Url.isHosted a.scheme = true) (hb : Net.Url.parse? address = some b) :
    Net.Url.SameOrigin a b := by
  rcases toList_base base with ⟨slashes, hbase, hslashes⟩
  rcases hbelow with hsame | ⟨rest, hmore⟩
  · have haddress : address.toList = (trimBase base).toList ++ [] := by
      rw [hsame, List.append_nil]
    exact Net.Url.sameOrigin_of_front hbase hslashes hvisible haddress (.inl rfl) ha hhosted hb
  · have haddress : address.toList = (trimBase base).toList ++ '/' :: rest.toList := by
      simp [hmore]
    exact Net.Url.sameOrigin_of_front hbase hslashes hvisible haddress (.inr ⟨_, rfl⟩) ha hhosted hb

/-- A request asks for the path that an address names, at the host that it names. -/
structure GoesTo (address : String) (request : Request) (url : Net.Url) : Prop where
  parsed : Net.Url.parse? address = some url
  scheme : request.url.scheme = url.scheme
  host : request.url.host = url.host
  port : request.url.port = url.port
  path : request.url.path = url.path

theorem parsed_of_target {address : String} {url : Net.Url} (htarget : target address = .ok url) :
    Net.Url.parse? address = some url := by
  unfold target at htarget
  split at htarget
  · cases htarget
  · rename_i other hparsed
    split at htarget
    · cases htarget
      exact hparsed
    · cases htarget

theorem goesTo_bare {verb address : String} {headers : Headers} {adjust : Net.Url -> Net.Url}
    (hadjust : forall url, exists query, adjust url = { url with query }) {request : Request}
    (hbuilt : bare verb address headers adjust = .ok request) :
    exists url, GoesTo address request url := by
  rcases parts_of_bare hbuilt with ⟨url, sent, htarget, -, hrequest⟩
  rw [hrequest]
  rcases hadjust (splitUser url).1 with ⟨query, hquery⟩
  refine ⟨url, parsed_of_target htarget, ?_, ?_, ?_, ?_⟩
  all_goals
    dsimp only
    rw [hquery]
    unfold splitUser
    split <;> rfl

theorem goesTo_getRequest {address : String} {headers : Headers}
    {pairs : List (String × String)} {request : Request}
    (hbuilt : getRequest address headers pairs = .ok request) :
    exists url, GoesTo address request url :=
  goesTo_bare (fun _ => ⟨_, rfl⟩) hbuilt

theorem goesTo_postRequest {address : String} {headers : Headers} {body : Members}
    {request : Request} (hbuilt : postRequest address headers body = .ok request) :
    exists url, GoesTo address request url := by
  rcases ok_of_bind hbuilt with ⟨plain, hbare, hbuilt⟩
  cases hbuilt
  rcases goesTo_bare (fun url => ⟨url.query, rfl⟩) hbare with ⟨url, hgoes⟩
  exact ⟨url, hgoes.parsed, hgoes.scheme, hgoes.host, hgoes.port, hgoes.path⟩

end Remote

namespace Engine
namespace Job

open Catalog Remote

def endpoint? (job : Job) : Option String :=
  match job.method.protocol with
  | .sql => none
  | .custom => nonEmpty job.method.customEndpoint
  | _ => some job.method.endpoint

theorem built_of_message {job : Job} {request : Remote.Request}
    (hmessage : job.message = .ok (.web request)) :
    exists endpoint, job.endpoint? = some endpoint ∧
      ((exists pairs,
          getRequest (job.address endpoint) job.resolved.headers pairs = .ok request) ∨
        exists body,
          postRequest (job.address endpoint) job.resolved.headers body = .ok request) := by
  have hbuilt {built : Except Failure Remote.Request} (hmap : built.map Message.web =
      .ok (.web request)) : built = .ok request := by
    rcases web_of_map hmap with ⟨other, hother, hweb⟩
    cases hweb
    exact hother
  unfold message at hmessage
  unfold endpoint?
  cases hprotocol : job.method.protocol with
  | sql =>
      rw [hprotocol] at hmessage
      cases hmessage
  | httpGet =>
      rw [hprotocol] at hmessage
      exact ⟨_, rfl, .inl ⟨_, hbuilt hmessage⟩⟩
  | httpPost =>
      rw [hprotocol] at hmessage
      exact ⟨_, rfl, .inr ⟨_, hbuilt hmessage⟩⟩
  | rest =>
      rw [hprotocol] at hmessage
      exact ⟨_, rfl, .inr ⟨_, hbuilt hmessage⟩⟩
  | graphql =>
      rw [hprotocol] at hmessage
      exact ⟨_, rfl, .inr ⟨_, hbuilt hmessage⟩⟩
  | custom =>
      rw [hprotocol] at hmessage
      dsimp only at hmessage
      split at hmessage
      · rename_i endpoint hendpoint
        exact ⟨endpoint, hendpoint, .inr ⟨_, hbuilt hmessage⟩⟩
      · cases hmessage

theorem goesTo_of_message {job : Job} {request : Remote.Request}
    (hmessage : job.message = .ok (.web request)) :
    exists endpoint url, job.endpoint? = some endpoint ∧
      GoesTo (job.address endpoint) request url ∧ Carries job.resolved.headers request := by
  rcases built_of_message hmessage with
    ⟨endpoint, hendpoint, ⟨pairs, hbuilt⟩ | ⟨body, hbuilt⟩⟩
  · rcases goesTo_getRequest hbuilt with ⟨url, hgoes⟩
    exact ⟨endpoint, url, hendpoint, hgoes, carries_getRequest hbuilt⟩
  · rcases goesTo_postRequest hbuilt with ⟨url, hgoes⟩
    exact ⟨endpoint, url, hendpoint, hgoes, carries_postRequest hbuilt⟩

/-!
# Where headers go
-/

/--
The address of a template that is not absolute is below the base, unless the
parameters make it absolute; then it is what they make it.  Parameters that do
so exist exactly for the templates in which a placeholder comes before all of a
scheme has been seen, and for any base that has more than a scheme these are
the templates that can be led away from it.  So the headers of a system go to
the host of its base address, for every other endpoint that is not absolute.  Below
is meant of the text: an address may be below the base and leave its path by two
dots between slashes, and is on the host of the base all the same.
-/
theorem addresses_below_unless_steerable (base : String) :
    (forall template, isAbsolute template = false ->
      (forall parameters,
        (isAbsolute (Template.fill parameters template) = false ->
          Below base (addressOf base template parameters)) ∧
        (isAbsolute (Template.fill parameters template) = true ->
          addressOf base template parameters = Template.fill parameters template)) ∧
      ((exists parameters, isAbsolute (Template.fill parameters template) = true) ↔
        Steerable template) ∧
      (trimBase base ≠ "http:" -> trimBase base ≠ "https:" ->
        ((forall parameters, Below base (addressOf base template parameters)) ↔
          ¬ Steerable template))) ∧
    forall (job : Job) (request : Remote.Request), job.resolved.system.baseUrl = base ->
      job.message = .ok (.web request) ->
        exists endpoint url, job.endpoint? = some endpoint ∧
          GoesTo (job.address endpoint) request url ∧ Carries job.resolved.headers request ∧
          (isAbsolute endpoint = false -> ¬ Steerable endpoint ->
            Below base (job.address endpoint) ∧
              forall start, Net.Url.parse? base = some start ->
                Net.Url.isHosted start.scheme = true -> Net.Url.Visible base.toList ->
                  Net.Url.SameOrigin start url) := by
  constructor
  · intro template hrelative
    refine ⟨?_, exists_absolute_iff hrelative, ?_⟩
    · intro parameters
      constructor
      · intro hfilled
        exact below_join hfilled base
      · intro hfilled
        exact join_of_absolute hfilled base
    · intro hhttp hhttps
      exact below_addressOf_iff hhttp hhttps hrelative
  · intro job request hbase hmessage
    subst hbase
    rcases goesTo_of_message hmessage with ⟨endpoint, url, hendpoint, hgoes, hcarries⟩
    refine ⟨endpoint, url, hendpoint, hgoes, hcarries, ?_⟩
    intro hrelative hfixed
    have hbelow : Below job.resolved.system.baseUrl (job.address endpoint) :=
      below_of_not_steerable hrelative hfixed _ job.parameters
    refine ⟨hbelow, ?_⟩
    intro start hstart hhosted hvisible
    exact sameOrigin_of_below hbelow hvisible hstart hhosted hgoes.parsed

/-!
# An endpoint that is a placeholder
-/

namespace Steered

/-- A system with a token, asked at the path that the parameters name. -/
def tracker (endpoint : String) : Backend :=
  { Backend.plain (Uuid.ofNat 7) "Tracker" "http://tracker.test/api/" with
    auth := .bearer (some "secret")
    methods := [Method.plain "fetch" .httpPost endpoint] }

def job (endpoint path : String) : Job :=
  { resolved := ⟨tracker endpoint, [("Authorization", "Bearer secret")]⟩
    method := Method.plain "fetch" .httpPost endpoint
    query := "q"
    parameters := [("path", .text path)] }

def isWebWith (property : Remote.Request -> Bool) : Except Failure Message -> Bool
  | .ok (.web request) => property request
  | _ => false

theorem exists_of_isWebWith {property : Remote.Request -> Bool}
    {message : Except Failure Message} (hmessage : isWebWith property message = true) :
    exists request, message = .ok (.web request) ∧ property request = true := by
  cases message with
  | error failure => cases hmessage
  | ok sent =>
      cases sent with
      | statement => cases hmessage
      | web request => exact ⟨request, rfl, hmessage⟩

/-- The token goes to the host that a parameter names. -/
theorem token_sent_elsewhere :
    let endpoint := "\x7b\x7bpath\x7d\x7d"
    let job := job endpoint "http://evil.test/x"
    headersOf (tracker endpoint) = .ok job.resolved.headers ∧ isAbsolute endpoint = false ∧
      ¬ Below "http://tracker.test/api/"
          (addressOf "http://tracker.test/api/" endpoint job.parameters) ∧
      exists request, job.message = .ok (.web request) ∧
        request.url.host = some (.name "evil.test") ∧
          ("authorization", "Bearer secret") ∈ request.headers := by
  intro endpoint job
  refine ⟨rfl, by decide, ?_, ?_⟩
  · intro hbelow
    have haddress : (addressOf "http://tracker.test/api/" endpoint job.parameters).toList =
        "http://evil.test/x".toList := by
      decide
    have hbegins : (trimBase "http://tracker.test/api/").toList <+:
        (addressOf "http://tracker.test/api/" endpoint job.parameters).toList := by
      rcases hbelow with hsame | ⟨rest, hmore⟩
      · exact ⟨[], by rw [List.append_nil, hsame]⟩
      · rw [hmore, String.toList_append, String.toList_append, List.append_assoc]
        exact List.prefix_append _ _
    rw [haddress] at hbegins
    revert hbegins
    decide
  · have hsent : isWebWith (fun request => request.url.host = some (.name "evil.test") &&
        request.headers.contains ("authorization", "Bearer secret")) job.message = true := by
      decide +kernel
    rcases exists_of_isWebWith hsent with ⟨request, hmessage, hproperty⟩
    simp only [Bool.and_eq_true, decide_eq_true_eq, List.contains_iff_mem] at hproperty
    exact ⟨request, hmessage, hproperty⟩

/-- Behind a slash the same parameter names a path of the tracker. -/
theorem addresses_below_unless_steerable_slash :
    let endpoint := "/\x7b\x7bpath\x7d\x7d"
    let job := job endpoint "http://evil.test/x"
    exists request url, job.message = .ok (.web request) ∧
      GoesTo (job.address endpoint) request url ∧
        Below "http://tracker.test/api/" (job.address endpoint) ∧
          url.host = some (.name "tracker.test") := by
  intro endpoint job
  have hfixed : ¬ Steerable endpoint := by
    intro hsteerable
    rcases head?_of_steerable hsteerable with hletter | hbrace
    · exact absurd hletter (by decide)
    · exact absurd hbrace (by decide)
  have hsent : isWebWith (fun _ => true) job.message = true := by
    decide +kernel
  have hparsed : (Net.Url.parse? "http://tracker.test/api/").any (fun base =>
      Net.Url.isHosted base.scheme && base.host = some (.name "tracker.test")) = true := by
    decide +kernel
  have hvisible : Net.Url.Visible "http://tracker.test/api/".toList := by
    have hall : "http://tracker.test/api/".toList.all (fun c => 0x20 < c.toNat) = true := by
      decide
    intro c hmem
    exact of_decide_eq_true (List.all_eq_true.mp hall c hmem)
  rcases exists_of_isWebWith hsent with ⟨request, hmessage, _⟩
  rcases (addresses_below_unless_steerable "http://tracker.test/api/").right job request rfl
    hmessage with ⟨other, url, hendpoint, hgoes, _, hconfined⟩
  cases hendpoint
  rcases hconfined (by decide) hfixed with ⟨hbelow, horigin⟩
  rcases (Option.any_eq_true _ _).mp hparsed with ⟨base, hbase, hproperty⟩
  simp only [Bool.and_eq_true, decide_eq_true_eq] at hproperty
  rcases hproperty with ⟨hhosted, hhost⟩
  refine ⟨request, url, hmessage, hgoes, hbelow, ?_⟩
  rw [← (horigin base hbase hhosted hvisible).host, hhost]

end Steered
end Job
end Engine
end QueryGateway
