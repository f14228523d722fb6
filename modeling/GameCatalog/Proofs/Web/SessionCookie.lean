import GameCatalog.Proofs.Json.Record
import GameCatalog.Proofs.Web.Cookie
import GameCatalog.Web.SessionCookie

/-!
What a session cookie says.  The value of a cookie holds the one session that was written into
it, and the name with a signed value, as it stands in front of a header that sets a cookie, is
that of one value only.  A browser sends it back in a header with whatever other cookies it has;
as long as these have other names, the value is seen if and only if it verifies.
-/

namespace GameCatalog

open Json Json.Record

section Sessions

theorem User.recovers : Recovers User.decoder User.toJson := by
  intro user
  apply Reads.decoder_eq_ok
  exact ((reads_required "id" (recovers_identifier user.id)).map User.mk).seq
    (reads_required "name" (recovers_text user.name)) (by decide)

theorem IdentitySession.recovers : Recovers IdentitySession.decoder IdentitySession.toJson := by
  intro session
  apply Reads.decoder_eq_ok
  exact (((reads_required "access_token" (recovers_secret session.accessToken)).map
    IdentitySession.mk).seq
    (reads_required "expires_at" (recovers_natural session.expiresAt)) (by decide)).seq
    (reads_optional "refresh_token" recovers_secret (fun _ => by simp [toReading])
      session.refreshToken) (by decide)

theorem ChallengeMethod.recovers :
    Recovers ChallengeMethod.decoder fun method => .text method.label := by
  intro method
  cases method
  rfl

theorem LoginAttempt.recovers : Recovers LoginAttempt.decoder LoginAttempt.toJson := by
  intro attempt
  apply Reads.decoder_eq_ok
  exact (((reads_required "method" (ChallengeMethod.recovers attempt.method)).map
    LoginAttempt.mk).seq
    (reads_required "verifier" (recovers_secret attempt.verifier)) (by decide)).seq
    (reads_required "state" (recovers_text attempt.state)) (by decide)

theorem ClientSession.recovers : Recovers ClientSession.decoder ClientSession.toJson := by
  intro session
  have identity := (reads_optional "identity" IdentitySession.recovers
    (fun _ => by simp [IdentitySession.toJson, toReading]) session.identity).map ClientSession.mk
  have user := identity.seq (reads_optional "user" User.recovers
    (fun _ => by simp [User.toJson, toReading]) session.user) (by decide)
  have reads := user.seq (reads_optional "auth_state" LoginAttempt.recovers
    (fun _ => by simp [LoginAttempt.toJson, toReading]) session.attempt) (by decide)
  exact reads.decoder_eq_ok

theorem SessionCookie.session?_value (session : ClientSession) :
    session? (value session) = some session := by
  unfold session? value
  rw [String.toList_ofList, Base64.decode?_encode Base64.distinct_urlSafe]
  simp only [bind, Option.bind]
  rw [run_compact (ClientSession.recovers session)]
  rfl

end Sessions

namespace SessionCookie

variable (cookie : SessionCookie)

theorem pairOf_injective {first second : String}
    (same : cookie.pairOf first = cookie.pairOf second) : first = second :=
  Cookie.sign_injective cookie.key (Cookie.encodePair_injective same)

theorem splitHeader_save (session : ClientSession) :
    (Cookie.splitHeader (cookie.save session)).1 = cookie.pairOf (value session) := by
  apply Cookie.splitHeader_encodePair
  unfold Cookie.keptAttributes
  simp only [String.toList_append]
  rfl

theorem splitHeader_revoke {request : Request} {now : Instant} {header : String}
    (membership : header ∈ cookie.revoke request now) (value : String) :
    (Cookie.splitHeader header).1 ≠ cookie.pairOf value := by
  unfold revoke at membership
  split at membership
  · have split : (Cookie.splitHeader
        (Cookie.encodePair cookie.name "" ++ Cookie.removedAttributes now)).1 =
          Cookie.encodePair cookie.name "" := by
      apply Cookie.splitHeader_encodePair
      unfold Cookie.removedAttributes
      rw [String.toList_append]
      rfl
    intro same
    rw [List.mem_singleton.mp membership, split] at same
    have signed := Cookie.encodePair_injective same
    have verified := Cookie.verify?_sign cookie.key value
    rw [← signed, Cookie.verify?_empty] at verified
    exact nomatch verified
  · exact absurd membership List.not_mem_nil

def pieces (request : Request) : List (List Char) :=
  (request.headers? "cookie").flatMap fun header => Split.on ';' header.toList

/-- The cookie headers of a request hold a name with its value, and no other value of the name. -/
structure Presents (request : Request) (name pair : String) : Prop where
  there : ∃ piece ∈ pieces request, Blank.trimChars piece = pair.toList
  sole : ∀ piece ∈ pieces request, ∀ value, Cookie.decodePair? piece = some (name, value) →
    Blank.trimChars piece = pair.toList

theorem ofRequest_eq_filterMap (request : Request) :
    Cookie.ofRequest request = (pieces request).filterMap Cookie.decodePair? :=
  (List.filterMap_flatMap ..).symm

theorem mem_ofRequest_iff {request : Request} {name signed : String} (named : name ≠ "")
    (presents : Presents request name (Cookie.encodePair name signed)) {value : String} :
    (name, value) ∈ Cookie.ofRequest request ↔ value = signed := by
  rw [ofRequest_eq_filterMap, List.mem_filterMap]
  constructor
  · rintro ⟨piece, membership, decoded⟩
    have trimmed := presents.sole piece membership value decoded
    rw [Cookie.decodePair?_of_trimmed named trimmed] at decoded
    cases decoded
    rfl
  · rintro rfl
    obtain ⟨piece, membership, trimmed⟩ := presents.there
    exact ⟨piece, membership, Cookie.decodePair?_of_trimmed named trimmed⟩

/-- Of the cookies of its name, the gateway sees the one that is presented if it verifies. -/
theorem value?_of_presents (named : cookie.name ≠ "") {request : Request} {signed : String}
    (presents : Presents request cookie.name (Cookie.encodePair cookie.name signed)) :
    cookie.value? request = Cookie.verify? cookie.key signed := by
  let verified := (Cookie.ofRequest request).filterMap fun pair =>
    if pair.1 = cookie.name then Cookie.verify? cookie.key pair.2 else none
  have mem_iff (value : String) :
      value ∈ verified ↔ Cookie.verify? cookie.key signed = some value := by
    simp only [verified, List.mem_filterMap, Option.ite_none_right_eq_some, Prod.exists]
    constructor
    · rintro ⟨_, other, membership, rfl, verifies⟩
      rwa [(mem_ofRequest_iff named presents).mp membership] at verifies
    · intro verifies
      exact ⟨_, _, (mem_ofRequest_iff named presents).mpr rfl, rfl, verifies⟩
  change verified.getLast? = _
  cases verifies : Cookie.verify? cookie.key signed with
  | none =>
      rw [List.getLast?_eq_none_iff, List.eq_nil_iff_forall_not_mem]
      intro value membership
      rw [mem_iff, verifies] at membership
      contradiction
  | some value =>
      have there := (mem_iff value).mpr verifies
      have nonempty : verified ≠ [] := List.ne_nil_of_mem there
      rw [List.getLast?_eq_some_getLast nonempty]
      have last := (mem_iff _).mp (List.getLast_mem nonempty)
      rw [← last, verifies]

section Header

def header (pairs : List (String × String)) : String :=
  String.ofList (Split.join "; ".toList
    (pairs.map fun (name, value) => (Cookie.encodePair name value).toList))

theorem printable_join {pieces : List (List Char)}
    (printable : ∀ piece ∈ pieces, ∀ character ∈ piece,
      0x20 ≤ character.toNat ∧ character.toNat < 0x7F) :
    ∀ character ∈ Split.join "; ".toList pieces,
      0x20 ≤ character.toNat ∧ character.toNat < 0x7F := by
  induction pieces with
  | nil => exact nofun
  | cons piece pieces inductionHypothesis =>
      obtain ⟨printablePiece, printableRest⟩ := List.forall_mem_cons.mp printable
      cases pieces with
      | nil => exact printablePiece
      | cons next pieces =>
          intro character membership
          simp only [Split.join, List.mem_append] at membership
          rcases membership with (inPiece | inMark) | inRest
          · exact printablePiece character inPiece
          · have mark : character = ';' ∨ character = ' ' := by simpa using inMark
            rcases mark with rfl | rfl <;> decide
          · exact inductionHypothesis printableRest character inRest

theorem headers?_header {request : Request} {pairs : List (String × String)}
    (sent : request.headers = [("cookie", Utf8.encode (header pairs))]) :
    request.headers? "cookie" = [header pairs] := by
  have printed : Request.printable? (Utf8.encode (header pairs)) = some (header pairs) := by
    apply Cookie.printable?_of_printable
    rw [header, String.toList_ofList]
    apply printable_join
    intro piece membership character inPiece
    obtain ⟨⟨name, value⟩, -, rfl⟩ := List.mem_map.mp membership
    obtain ⟨-, above, below⟩ := Cookie.of_mem_encodePair inPiece
    exact ⟨Nat.le_of_lt above, below⟩
  simp [Request.headers?, sent, printed]

theorem pieces_header {request : Request} {first : String × String}
    {rest : List (String × String)}
    (sent : request.headers = [("cookie", Utf8.encode (header (first :: rest)))]) :
    pieces request = (Cookie.encodePair first.1 first.2).toList ::
      rest.map fun pair => ' ' :: (Cookie.encodePair pair.1 pair.2).toList := by
  have whole : ∀ part ∈ (first :: rest).map fun pair =>
      (Cookie.encodePair pair.1 pair.2).toList, ∀ character ∈ part, character ≠ ';' := by
    intro part membership character inPart
    obtain ⟨pair, -, rfl⟩ := List.mem_map.mp membership
    exact (Cookie.of_mem_encodePair inPart).1
  have cut := Split.on_join whole (by decide)
  rw [List.map_map] at cut
  unfold pieces
  rw [headers?_header sent, List.flatMap_singleton, header, String.toList_ofList]
  exact cut

/-- A piece of a header is a name with its value, but for the blank in front of it. -/
theorem of_mem_pieces {request : Request} {pairs : List (String × String)}
    (sent : request.headers = [("cookie", Utf8.encode (header pairs))]) (notEmpty : pairs ≠ []) :
    (∀ piece ∈ pieces request, ∃ pair ∈ pairs,
      Blank.trimChars piece = (Cookie.encodePair pair.1 pair.2).toList) ∧
    ∀ pair ∈ pairs, ∃ piece ∈ pieces request,
      Blank.trimChars piece = (Cookie.encodePair pair.1 pair.2).toList := by
  obtain ⟨first, rest, rfl⟩ := List.exists_cons_of_ne_nil notEmpty
  have trimmed (pair : String × String) :
      Blank.trimChars (Cookie.encodePair pair.1 pair.2).toList =
        (Cookie.encodePair pair.1 pair.2).toList := by
    have alone := @Cookie.trimChars_encodePair [] nofun pair.1 pair.2
    rwa [List.nil_append] at alone
  have trimmedBlank (pair : String × String) :
      Blank.trimChars (' ' :: (Cookie.encodePair pair.1 pair.2).toList) =
        (Cookie.encodePair pair.1 pair.2).toList := by
    have blank : ∀ character ∈ [' '], Blank.isBlank character = true :=
      List.forall_mem_singleton.mpr rfl
    have behind := Cookie.trimChars_encodePair blank pair.1 pair.2
    rwa [List.singleton_append] at behind
  rw [pieces_header sent]
  constructor
  · intro piece membership
    rcases List.mem_cons.mp membership with same | later
    · rw [same]
      exact ⟨first, List.mem_cons_self, trimmed first⟩
    · obtain ⟨pair, pairThere, rfl⟩ := List.mem_map.mp later
      exact ⟨pair, List.mem_cons_of_mem _ pairThere, trimmedBlank pair⟩
  · intro pair membership
    rcases List.mem_cons.mp membership with rfl | later
    · exact ⟨_, List.mem_cons_self, trimmed pair⟩
    · exact ⟨_, List.mem_cons_of_mem _ (List.mem_map.mpr ⟨pair, later, rfl⟩), trimmedBlank pair⟩

theorem presents_header {request : Request} {before after : List (String × String)}
    {name signed : String}
    (sent : request.headers =
      [("cookie", Utf8.encode (header (before ++ (name, signed) :: after)))])
    (named : ∀ pair ∈ before ++ after, pair.1 ≠ "" ∧ pair.1 ≠ name) :
    Presents request name (Cookie.encodePair name signed) := by
  obtain ⟨pairOfPiece, pieceOfPair⟩ := of_mem_pieces sent (by simp)
  constructor
  · exact pieceOfPair (name, signed) (by simp)
  · intro piece membership value decoded
    obtain ⟨pair, pairThere, trimmed⟩ := pairOfPiece piece membership
    rw [List.mem_append, List.mem_cons, or_left_comm, ← List.mem_append] at pairThere
    rcases pairThere with rfl | other
    · exact trimmed
    · obtain ⟨notEmpty, otherName⟩ := named pair other
      rw [Cookie.decodePair?_of_trimmed notEmpty trimmed] at decoded
      cases decoded
      contradiction

theorem presents_of_presented {request : Request} {value : String}
    (presented : request.headers = [("cookie", Utf8.encode (cookie.pairOf value))]) :
    Presents request cookie.name
      (Cookie.encodePair cookie.name (Cookie.sign cookie.key value)) := by
  have alone : header ([] ++ (cookie.name, Cookie.sign cookie.key value) :: []) =
      cookie.pairOf value := String.ofList_toList
  rw [← alone] at presented
  exact presents_header presented nofun

/-- A request that presents a signed value, and no other cookie, is seen to present it. -/
theorem value?_of_presented (named : cookie.name ≠ "") {request : Request} {value : String}
    (presented : request.headers = [("cookie", Utf8.encode (cookie.pairOf value))]) :
    cookie.value? request = some value := by
  rw [cookie.value?_of_presents named (cookie.presents_of_presented presented),
    Cookie.verify?_sign]

end Header

end SessionCookie

end GameCatalog
