import QueryGateway.Remote.Request

/-!
# Requests on the wire

A client that is told to send a request may put further ones on the wire after it.  It
follows a reply that names another address, and it sends a request again that the other
side has not taken up.  After any other ending it sends nothing more.
-/

namespace QueryGateway
namespace Remote

inductive Ending where
  /-- There was a reply; it may name an address to go to. -/
  | replied (status : Nat) (location : Option String)
  | notTakenUp
  | broken
deriving DecidableEq

structure Hop where
  request : Request
  ending : Ending

/-- The statuses with which a reply sends to the address that it names. -/
def redirections : List Nat :=
  [301, 302, 303, 307, 308]

def Ending.isFinal : Ending -> Bool
  | .replied status location => !(redirections.contains status && location.isSome)
  | .notTakenUp => false
  | .broken => true

/-- The first hop for a request is the request itself, and only the last one may be final. -/
inductive Follows : Request -> List Hop -> Prop where
  | nothing {request : Request} : Follows request []
  | sent {request next : Request} {ending : Ending} {rest : List Hop}
      (hmore : rest ≠ [] -> ending.isFinal = false) (hrest : Follows next rest) :
      Follows request (⟨request, ending⟩ :: rest)

/-- What is put on the wire for a request within a time limit. -/
abbrev Client (σ : Type) := Request -> Nat -> σ -> List Hop

def Client.Lawful {σ : Type} (client : Client σ) : Prop :=
  forall request limit world, Follows request (client request limit world)

theorem Follows.single (request : Request) (ending : Ending) :
    Follows request [⟨request, ending⟩] :=
  @Follows.sent request request ending [] (fun hmore => absurd rfl hmore) .nothing

theorem Follows.request_of_head {request : Request} {hops : List Hop} {hop : Hop}
    (hfollows : Follows request hops) (hhead : hops.head? = some hop) : hop.request = request := by
  cases hfollows with
  | nothing => cases hhead
  | sent hmore hrest =>
      cases hhead
      rfl

/-- What ends where it was sent is all that is sent. -/
theorem Follows.length_le_one {request : Request} {hops : List Hop}
    (hfollows : Follows request hops)
    (hfinal : forall hop, hop ∈ hops -> hop.ending.isFinal = true) : hops.length ≤ 1 := by
  cases hfollows with
  | nothing => exact Nat.zero_le 1
  | sent hmore hrest =>
      rename_i next ending rest
      cases rest with
      | nil => exact Nat.le_refl 1
      | cons second others =>
          have hfirst : ending.isFinal = true := hfinal ⟨request, ending⟩ List.mem_cons_self
          rw [hmore (List.cons_ne_nil second others)] at hfirst
          cases hfirst

end Remote
end QueryGateway
