import QueryGateway.Engine.Job

/-!
# Headers on their way

A request carries the headers it was put together with.  Besides them it has
at most the user of its address and the headers that are never missing.
-/

namespace QueryGateway
namespace Remote

def asSent (headers : Headers) : List (String × String) :=
  headers.map fun (name, value) => (lowerName name, value)

/--
A request with all of the given headers in their order: before them only the
user of the address, after them only what is sent where they do not say it.
-/
def Carries (headers : Headers) (request : Request) : Prop :=
  exists user defaults,
    request.headers = user ++ asSent headers ++ defaults ∧
      (forall header, header ∈ user -> header.1 = "authorization") ∧
      forall header, header ∈ defaults ->
        header.1 ∈ ["user-agent", "accept", "content-type"] ∧
          hasHeader (asSent headers) header.1 = false

theorem sentHeaders_eq {headers : Headers} {sent : List (String × String)}
    (hsent : sentHeaders headers = .ok sent) : sent = asSent headers := by
  unfold sentHeaders at hsent
  induction headers generalizing sent with
  | nil =>
      cases hsent
      rfl
  | cons header rest ih =>
      rw [List.mapM_cons] at hsent
      cases hwritten : isToken header.1 && isFieldValue header.2 with
      | false => simp [hwritten, bind, Except.bind] at hsent
      | true =>
          simp only [hwritten, if_true, bind, Except.bind] at hsent
          split at hsent
          · cases hsent
          · rename_i after hafter
            cases hsent
            rw [ih hafter]
            rfl

theorem withDefault_eq (name value : String) (headers : List (String × String)) :
    exists defaults, withDefault name value headers = headers ++ defaults ∧
      forall header, header ∈ defaults -> header.1 = name ∧ hasHeader headers name = false := by
  unfold withDefault
  cases hthere : hasHeader headers name with
  | true =>
      refine ⟨[], (List.append_nil headers).symm, ?_⟩
      intro header hmem
      cases hmem
  | false =>
      refine ⟨[(name, value)], rfl, ?_⟩
      intro header hmem
      rw [List.mem_singleton.mp hmem]
      exact ⟨rfl, rfl⟩

theorem Carries.withDefault {headers : Headers} {request : Request}
    (hcarries : Carries headers request) {name : String}
    (hname : name ∈ ["user-agent", "accept", "content-type"]) (value body : String) :
    Carries headers
      { request with headers := Remote.withDefault name value request.headers, body } := by
  rcases hcarries with ⟨user, defaults, hheaders, huser, hdefaults⟩
  rcases withDefault_eq name value request.headers with ⟨added, hadded, habsent⟩
  refine ⟨user, defaults ++ added, ?_, huser, ?_⟩
  · show Remote.withDefault name value request.headers = _
    rw [hadded, hheaders, List.append_assoc _ defaults added]
  · intro header hmem
    rcases List.mem_append.mp hmem with hbefore | hnew
    · exact hdefaults header hbefore
    · rcases habsent header hnew with ⟨hsame, hmissing⟩
      rw [hsame]
      refine ⟨hname, ?_⟩
      rw [hheaders] at hmissing
      simp only [hasHeader, List.any_append, Bool.or_eq_false_iff] at hmissing
      exact hmissing.left.right

theorem ok_of_bind {α β : Type} {first : Except Failure α} {second : α -> Except Failure β}
    {value : β} (hboth : (first >>= second) = .ok value) :
    exists given, first = .ok given ∧ second given = .ok value := by
  cases first with
  | error failure => cases hboth
  | ok given => exact ⟨given, rfl, hboth⟩

theorem of_onWeb {asked request : Request} (hbuilt : onWeb asked = .ok request) :
    request = asked := by
  unfold onWeb at hbuilt
  split at hbuilt
  · cases hbuilt
    rfl
  · cases hbuilt

theorem parts_of_bare {verb address : String} {headers : Headers} {adjust : Net.Url -> Net.Url}
    {request : Request} (hbuilt : bare verb address headers adjust = .ok request) :
    exists url sent, target address = .ok url ∧ sentHeaders headers = .ok sent ∧
      request = ⟨verb, adjust (splitUser url).1, withDefaults ((splitUser url).2 ++ sent), ""⟩ := by
  rcases ok_of_bind hbuilt with ⟨url, htarget, hbuilt⟩
  rcases ok_of_bind hbuilt with ⟨sent, hsent, hbuilt⟩
  exact ⟨url, sent, htarget, hsent, of_onWeb hbuilt⟩

theorem carries_bare {verb address : String} {headers : Headers} {adjust : Net.Url -> Net.Url}
    {request : Request} (hbuilt : bare verb address headers adjust = .ok request) :
    Carries headers request := by
  rcases parts_of_bare hbuilt with ⟨url, sent, -, hsent, hrequest⟩
  rw [hrequest]
  have hplain : Carries headers
      ⟨verb, adjust (splitUser url).1, (splitUser url).2 ++ sent, ""⟩ := by
    refine ⟨(splitUser url).2, [], ?_, ?_, ?_⟩
    · rw [sentHeaders_eq hsent, List.append_nil]
    · intro header hmem
      unfold splitUser at hmem
      split at hmem
      · cases hmem
      · rw [List.mem_singleton.mp hmem]
    · intro header hmem
      cases hmem
  exact (hplain.withDefault List.mem_cons_self product "").withDefault
    (List.mem_cons_of_mem _ List.mem_cons_self) "*/*" ""

theorem carries_getRequest {address : String} {headers : Headers}
    {pairs : List (String × String)} {request : Request}
    (hbuilt : getRequest address headers pairs = .ok request) : Carries headers request :=
  carries_bare hbuilt

theorem carries_postRequest {address : String} {headers : Headers} {body : Members}
    {request : Request} (hbuilt : postRequest address headers body = .ok request) :
    Carries headers request := by
  rcases ok_of_bind hbuilt with ⟨plain, hbare, hbuilt⟩
  cases hbuilt
  apply (carries_bare hbare).withDefault
  simp

end Remote

namespace Engine
namespace Job

open Catalog Remote

theorem web_of_map {built : Except Failure Remote.Request} {message : Message}
    (hmessage : built.map .web = .ok message) :
    exists request, built = .ok request ∧ message = .web request := by
  cases built with
  | error failure => cases hmessage
  | ok request =>
      cases hmessage
      exact ⟨request, rfl, rfl⟩

end Job
end Engine
end QueryGateway
