import GameCatalog.Proofs.Web.SessionCookie

/-!
The way of a session to the browser and back.  A session is written as JSON, encoded in base 64,
signed, percent-encoded and put in front of the attributes of a header; a browser sends the name
with the value back among its other cookies.  Each step undoes its counterpart, whatever texts the
session holds, and a store with another key sees no session unless the authentication codes agree.
-/

namespace GameCatalog.SessionCookie

theorem ofSecret_of_long {secret name : String} {maxAge : Nat} {secure : Bool}
    (long : Secret.minLength ≤ Utf8.size secret) :
    ∃ cookie, ofSecret secret name maxAge secure = .ok cookie ∧ cookie.name = name := by
  unfold ofSecret
  rw [if_neg (Nat.not_lt.mpr long)]
  exact ⟨_, rfl, rfl⟩

theorem read?_of_presents {cookie other : SessionCookie} {session : ClientSession}
    {request : Request} (named : cookie.name ≠ "") (sameName : other.name = cookie.name)
    (presents : Presents request cookie.name (Cookie.splitHeader (cookie.save session)).1) :
    other.read? request =
      if Hmac.code cookie.key (Utf8.encode (value session)) =
          Hmac.code other.key (Utf8.encode (value session)) then some session
      else none := by
  rw [cookie.splitHeader_save, pairOf, ← sameName] at presents
  rw [← sameName] at named
  unfold read?
  rw [other.value?_of_presents named presents, Cookie.verify?_sign_under]
  split
  · rw [Option.bind_some, session?_value]
  · rfl

/--
A browser that has other cookies, or none, presents the name and the value of the header that saves
a session, and every session that is presented so is read back; another store of the name reads it
if its key gives the same authentication code, and otherwise reads no session.
-/
theorem save_read? :
    (∀ (secret name : String) (maxAge : Nat) (secure : Bool),
      Secret.minLength ≤ Utf8.size secret →
        ∃ cookie, ofSecret secret name maxAge secure = .ok cookie ∧ cookie.name = name) ∧
    (∀ (cookie : SessionCookie) (session : ClientSession) (request : Request)
      (before after : List (String × String)),
      (∀ pair ∈ before ++ after, pair.1 ≠ "" ∧ pair.1 ≠ cookie.name) →
      request.headers = [("cookie", Utf8.encode (header
        (before ++ (cookie.name, Cookie.sign cookie.key (value session)) :: after)))] →
      Presents request cookie.name (Cookie.splitHeader (cookie.save session)).1) ∧
    ∀ (cookie : SessionCookie) (session : ClientSession) (request : Request), cookie.name ≠ "" →
      Presents request cookie.name (Cookie.splitHeader (cookie.save session)).1 →
      cookie.read? request = some session ∧
        ∀ other : SessionCookie, other.name = cookie.name →
          other.read? request =
            if Hmac.code cookie.key (Utf8.encode (value session)) =
                Hmac.code other.key (Utf8.encode (value session)) then some session
            else none := by
  refine ⟨?_, ?_, ?_⟩
  · intro secret name maxAge secure long
    exact ofSecret_of_long long
  · intro cookie session request before after others sent
    rw [cookie.splitHeader_save]
    exact presents_header sent others
  · intro cookie session request named presents
    constructor
    · rw [read?_of_presents named rfl presents, if_pos rfl]
    · intro other sameName
      exact read?_of_presents named sameName presents

theorem save_read?_among :
    let secret := "0123456789abcdef0123456789abcdef"
    let session : ClientSession := {
      identity := some ⟨⟨"tökén; \"a\"=b"⟩, 0xFFFFFFFFFFFFFFFF, some ⟨""⟩⟩
      user := some ⟨⟨7⟩, "Åda 🎲"⟩ }
    ∃ cookie, ofSecret secret "__Host-session" 3600 true = .ok cookie ∧
      ∀ request : Request,
        request.headers = [("cookie", Utf8.encode (header
          [("theme", "dark"), (cookie.name, Cookie.sign cookie.key (value session)),
            ("lang", "de; en")]))] →
        cookie.read? request = some session := by
  intro secret session
  obtain ⟨made, presented, returns⟩ := save_read?
  have long : Secret.minLength ≤ Utf8.size secret := by decide +kernel
  obtain ⟨cookie, fromSecret, named⟩ := made secret "__Host-session" 3600 true long
  refine ⟨cookie, fromSecret, fun request sent => ?_⟩
  have notEmpty : cookie.name ≠ "" := by
    rw [named]
    decide
  have others : ∀ pair ∈ [("theme", "dark")] ++ [("lang", "de; en")],
      pair.1 ≠ "" ∧ pair.1 ≠ cookie.name := by
    rw [named]
    decide
  have presents := presented cookie session request _ _ others sent
  exact (returns cookie session request notEmpty presents).1

end GameCatalog.SessionCookie
