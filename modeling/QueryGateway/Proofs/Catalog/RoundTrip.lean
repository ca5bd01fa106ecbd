import QueryGateway.Execution.Request
import QueryGateway.Proofs.Rows.Declaration
import QueryGateway.Proofs.Uuid

/-!
# Stored declarations are recovered

Systems, saved queries and requests for an execution are kept as JSON.  Reading
what is written of one gives it back, and so does reading what is written of
one that was read, however that was spelled.
-/

namespace QueryGateway

namespace Schema

theorem faithful_uuid : Faithful readUuid (fun id => .text id.render) (fun _ => True) := by
  apply faithful_parsed
  intro id
  rw [Uuid.parse_render]
  rfl

end Schema

namespace Catalog

open Schema

/-!
# Credentials
-/

namespace Credentials

def Canonical : Credentials -> Prop
  | .custom headers => Dictionary.Sorted headers
  | _ => True

theorem pairRecord_faithful {first second : String} (hapart : first ≠ second) :
    (pairRecord first second).Faithful
      (fun row => [(first, textOrNull row.1), (second, textOrNull row.2.1)])
      (fun _ => True) := by
  have hapart : ((.cons (.optional second readText) .nil : Record _).names.all fun other =>
      !(Field.optional first readText).answersTo other) = true := by
    simp [Record.names, Field.optional, Field.withDefault, Field.answersTo, hapart]
  have hrecord : (pairRecord first second).Faithful _ _ :=
    .optional (faithful_text _) text_ne_null hapart
      (.optional (faithful_text _) text_ne_null rfl .nil)
  apply hrecord.of_iff
  intro row
  simp

theorem bearerRecord_faithful :
    bearerRecord.Faithful (fun row => [("token", textOrNull row.1)]) (fun _ => True) := by
  have hrecord : bearerRecord.Faithful _ _ := .optional (faithful_text _) text_ne_null rfl .nil
  apply hrecord.of_iff
  intro row
  simp

theorem customRecord_faithful :
    customRecord.Faithful
      (fun row => [("headers", .object (row.1.map fun (name, value) => (name, .text value)))])
      (fun row => Dictionary.Sorted row.1) := by
  have hrecord : customRecord.Faithful _ _ :=
    .withDefault (faithful_dictionary (faithful_text _)) ⟨Dictionary.sorted_nil, nofun⟩ rfl .nil
  apply hrecord.of_iff
  intro row
  simp

theorem faithful : Faithful reader toJson Canonical where
  recovers {origin credentials} _ hcanonical := by
    cases credentials with
    | none =>
        have hpick : tagged.choice.pick "none" = .ok (Tagged.empty .none) := rfl
        have hnodup : (tagged.tag :: ([] : List (String × Json)).map Prod.fst).Nodup := by
          decide
        apply Tagged.reader_ofMembers hpick hnodup
        intro shuffled hperm
        rfl
    | basic username password =>
        have hpick : tagged.choice.pick "basic" =
            .ok (Tagged.fields _ (pairRecord "username" "password") _) := rfl
        exact Tagged.reader_fields hpick (pairRecord_faithful (by decide)) (by decide)
          (username, password, ()) trivial origin
    | bearer token =>
        have hpick : tagged.choice.pick "bearer" = .ok (Tagged.fields _ bearerRecord _) := rfl
        exact Tagged.reader_fields hpick bearerRecord_faithful (by decide) (token, ()) trivial
          origin
    | apiKey key headerName =>
        have hpick : tagged.choice.pick "api_key" =
            .ok (Tagged.fields _ (pairRecord "key" "header_name") _) := rfl
        exact Tagged.reader_fields hpick (pairRecord_faithful (by decide)) (by decide)
          (key, headerName, ()) trivial origin
    | oauth accessToken refreshToken =>
        have hpick : tagged.choice.pick "oauth" =
            .ok (Tagged.fields _ (pairRecord "access_token" "refresh_token") _) := rfl
        exact Tagged.reader_fields hpick (pairRecord_faithful (by decide)) (by decide)
          (accessToken, refreshToken, ()) trivial origin
    | custom headers =>
        have hpick : tagged.choice.pick "custom" = .ok (Tagged.fields _ customRecord _) := rfl
        exact Tagged.reader_fields hpick customRecord_faithful (by decide) (headers, ())
          hcanonical origin
  canonical {origin doc credentials} hread := by
    rcases Tagged.exists_variant hread with ⟨name, variant, hmem, origin, doc, hvariant⟩
    simp only [tagged, List.mem_cons, Prod.mk.injEq, List.not_mem_nil, or_false] at hmem
    rcases hmem with ⟨_, hnone⟩ | ⟨_, hbasic⟩ | ⟨_, hbearer⟩ | ⟨_, hapiKey⟩ | ⟨_, hoauth⟩ |
      ⟨_, hcustom⟩
    · rw [hnone] at hvariant
      rw [Tagged.eq_of_empty hvariant]
      trivial
    · rw [hbasic] at hvariant
      exact Tagged.canonical_fields (pairRecord_faithful (by decide)) (fun _ _ => trivial) hvariant
    · rw [hbearer] at hvariant
      exact Tagged.canonical_fields bearerRecord_faithful (fun _ _ => trivial) hvariant
    · rw [hapiKey] at hvariant
      exact Tagged.canonical_fields (pairRecord_faithful (by decide)) (fun _ _ => trivial) hvariant
    · rw [hoauth] at hvariant
      exact Tagged.canonical_fields (pairRecord_faithful (by decide)) (fun _ _ => trivial) hvariant
    · rw [hcustom] at hvariant
      refine Tagged.canonical_fields customRecord_faithful ?_ hvariant
      intro row hrow
      exact hrow

end Credentials

/-!
# Methods and health checks
-/

theorem Protocol.faithful : Faithful reader toJson (fun _ => True) := by
  apply faithful_choice
  intro protocol
  cases protocol <;> rfl

namespace Method

def Canonical (m : Method) : Prop :=
  forall payload, m.defaultPayload = some payload -> Json.Canonical (.object payload)

theorem faithful : Faithful reader toJson Canonical := by
  have hrecord : record.Faithful _ _ :=
    .required (faithful_text _) rfl
      (.cons Protocol.faithful nofun nofun rfl
        (.withDefault (faithful_text _) trivial rfl
          (.optional (faithful_text _) text_ne_null rfl
            (.optional (faithful_text _) text_ne_null rfl
              (.optional (faithful_text _) text_ne_null rfl
                (.optional (faithful_text _) text_ne_null rfl
                  (.optional faithful_members nofun rfl
                    (.optional (faithful_text _) text_ne_null rfl
                      (.optional faithful_uint64 nofun rfl .nil)))))))))
  refine hrecord.build _ _
    (fun m : Method => (m.name, m.protocol, m.endpoint, m.queryParam, m.queryField, m.paramsField,
      m.resultPath, m.defaultPayload, m.customEndpoint, m.timeoutMs, ())) (fun _ => rfl) ?_ ?_
  · intro m hcanonical
    simpa [Canonical] using hcanonical
  · intro row hrow
    simpa [Canonical] using hrow

end Method

theorem HealthCheck.faithful : Faithful reader toJson (fun _ => True) := by
  have hrecord : record.Faithful _ _ :=
    .optional (faithful_text _) text_ne_null rfl
      (.optional (faithful_text _) text_ne_null rfl
        (.optional faithful_uint16 nofun rfl
          (.optional faithful_uint64 nofun rfl .nil)))
  refine hrecord.build _ _
    (fun check : HealthCheck =>
      (check.endpoint, check.method, check.expectedStatus, check.timeoutMs, ()))
    (fun _ => rfl) ?_ (fun _ _ => trivial)
  intro check _
  simp

/-!
# Systems
-/

/--
Systems as they are kept: names of headers and of transformations are in order,
and so are the names in every value that is declared.
-/
structure Backend.Canonical (system : Backend) : Prop where
  auth : system.auth.Canonical
  headers : Dictionary.Sorted system.headers
  methods : forall m, m ∈ system.methods -> m.Canonical
  transforms : Dictionary.Sorted system.transforms
  steps : forall name step, (name, step) ∈ system.transforms -> step.Canonical

theorem Backend.faithful : Faithful reader toJson Canonical := by
  have hrecord : record.Faithful _ _ :=
    .required faithful_uuid rfl
      (.required (faithful_text _) rfl
        (.required (faithful_text _) rfl
          (.withDefault faithful_bool trivial rfl
            (.withDefault Credentials.faithful trivial rfl
              (.withDefault (faithful_dictionary (faithful_text _))
                ⟨Dictionary.sorted_nil, nofun⟩ rfl
                (.list Method.faithful rfl
                  (.withDefault (faithful_dictionary Rows.Transform.faithful)
                    ⟨Dictionary.sorted_nil, nofun⟩ rfl
                    (.optional HealthCheck.faithful nofun rfl
                      (.optional faithful_uint64 nofun rfl
                        (.withDefault faithful_uint32 trivial rfl .nil))))))))))
  refine hrecord.build _ _
    (fun system : Backend => (system.id, system.name, system.baseUrl, system.isActive, system.auth,
      system.headers, system.methods, system.transforms, system.healthCheck, system.timeoutMs,
      system.retries, ())) (fun _ => rfl) ?_ ?_
  · rintro system ⟨hauth, hheaders, hmethods, htransforms, hsteps⟩
    exact ⟨trivial, trivial, trivial, trivial, hauth, ⟨hheaders, fun _ _ _ => trivial⟩, hmethods,
      ⟨htransforms, hsteps⟩, fun _ _ => trivial, fun _ _ => trivial, trivial, trivial⟩
  · rintro row ⟨_, _, _, _, hauth, ⟨hheaders, _⟩, hmethods, ⟨htransforms, hsteps⟩, _⟩
    exact ⟨hauth, hheaders, hmethods, htransforms, hsteps⟩

/-!
# Saved queries
-/

theorem Visibility.faithful : Faithful reader toJson (fun _ => True) := by
  apply faithful_choice
  intro visibility
  cases visibility <;> rfl

def SavedQuery.Canonical (query : SavedQuery) : Prop :=
  Json.Canonical (.object query.parameters)

theorem SavedQuery.faithful : Faithful reader toJson Canonical := by
  have hrecord : record.Faithful _ _ :=
    .required faithful_uuid rfl
      (.required faithful_uuid rfl
        (.required faithful_uuid rfl
          (.optional (faithful_text _) text_ne_null rfl
            (.required (faithful_text _) rfl
              (.withDefault faithful_members canonical_nil rfl
                (.list (faithful_text _) rfl
                  (.withDefault faithful_uint64 trivial rfl
                    (.withDefault faithful_bool trivial rfl
                      (.withDefault Visibility.faithful trivial rfl
                        (.list (faithful_text _) rfl
                          (.withDefault faithful_bool trivial rfl .nil)))))))))))
  refine hrecord.build _ _
    (fun query : SavedQuery => (query.id, query.ownerId, query.systemId, query.method,
      query.queryText, query.parameters, query.transformations, query.refreshIntervalSecs,
      query.cacheEnabled, query.visibility, query.tags, query.isActive, ())) (fun _ => rfl) ?_ ?_
  · intro query hcanonical
    simpa [Canonical] using hcanonical
  · intro row hrow
    simpa [Canonical] using hrow

end Catalog

/-!
# Requests for an execution
-/

namespace Execution

open Schema

def Request.Canonical (request : Request) : Prop :=
  Json.Canonical (.object request.parameters)

theorem Request.faithful : Faithful reader toJson Canonical := by
  have hrecord : record.Faithful _ _ :=
    .required faithful_uuid rfl
      (.required (faithful_text _) rfl
        (.optional (faithful_text _) text_ne_null rfl
          (.withDefault faithful_members canonical_nil rfl
            (.list (faithful_text _) rfl
              (.optional faithful_uint64 nofun rfl
                (.optional faithful_uint64 nofun rfl
                  (.withDefault faithful_bool trivial rfl
                    (.optional faithful_uuid nofun rfl .nil))))))))
  refine hrecord.build _ _
    (fun request : Request => (request.systemId, request.query, request.method, request.parameters,
      request.transformations, request.timeoutMs, request.cacheTtlSecs, request.forceRefresh,
      request.queryId, ())) (fun _ => rfl) ?_ ?_
  · intro request hcanonical
    simpa [Canonical] using hcanonical
  · intro row hrow
    simpa [Canonical] using hrow

end Execution

/-!
# Round trips
-/

namespace Schema

/--
What is written of a canonical value is read as that value.  Whatever is read,
from a value or from a text, is canonical, and what is written of it is read as
the same again.
-/
structure RoundTrips {α : Type} (reader : Reader α) (write : α -> Json) (Canonical : α -> Prop) :
    Prop where
  written : forall x, Canonical x -> reader.ofJson (write x) = .ok x
  read : forall value x, reader.ofJson value = .ok x ->
    Canonical x ∧ reader.ofJson (write x) = .ok x
  parsed : forall bytes x, reader.ofText bytes = .ok x ->
    Canonical x ∧ reader.ofJson (write x) = .ok x

theorem Faithful.roundTrips {α : Type} {reader : Reader α} {write : α -> Json}
    {Canonical : α -> Prop} (hfaithful : Faithful reader write Canonical) :
    RoundTrips reader write Canonical where
  written x hcanonical := hfaithful.recovers rfl hcanonical
  read value x hread := ⟨hfaithful.canonical hread, hfaithful.rereads hread⟩
  parsed bytes x hread := by
    unfold Reader.ofText at hread
    dsimp only at hread
    split at hread
    · rename_i hdoc _
      cases hread
      exact ⟨hfaithful.canonical hdoc, hfaithful.rereads hdoc⟩
    · cases hread
    · cases hread

end Schema

open Catalog Execution

/-- Systems, saved queries and requests are recovered from what is written of them. -/
theorem declarations_round_trip :
    Schema.RoundTrips Backend.reader Backend.toJson Backend.Canonical ∧
      Schema.RoundTrips SavedQuery.reader SavedQuery.toJson SavedQuery.Canonical ∧
      Schema.RoundTrips Request.reader Request.toJson Request.Canonical :=
  ⟨Backend.faithful.roundTrips, SavedQuery.faithful.roundTrips, Request.faithful.roundTrips⟩

namespace Spelling

/-- A system under other names for its fields, with a list for a record and an unknown function. -/
def spelled : Json :=
  .ofMembers
    [("id", .text "00000000000000000000000000000007"), ("name", .text "tracker"),
     ("base_url", .text "http://tracker"),
     ("auth", .array [.text "oauth", .text "token"]),
     ("methods", .array [.ofMembers [("name", .text "ask"), ("type", .text "sql")]]),
     ("transforms", .ofMembers
       [("totals", .ofMembers
         [("type", .text "aggregate"), ("groupBy", .ofTexts ["team"]),
          ("metrics", .array [.ofMembers [("function", .text "variance")]]),
          ("filters", .array [.array [.text "size", .text "in", .array [.ofNat 1, .null]]])])])]

theorem spelled_read : (Backend.reader.ofJson spelled).isOk = true := by
  decide +kernel

/-- The system that is read is written in one way, and read as the same again. -/
theorem declarations_round_trip_spelled :
    exists system, Backend.reader.ofJson spelled = .ok system ∧
      Backend.reader.ofJson system.toJson = .ok system := by
  cases hread : Backend.reader.ofJson spelled with
  | error fault =>
      have hok := spelled_read
      rw [hread] at hok
      cases hok
  | ok system => exact ⟨system, rfl, (declarations_round_trip.left.read spelled system hread).right⟩

end Spelling
end QueryGateway
