import Gatehouse.Proofs.Http.Answering
import Gatehouse.Proofs.Http.Login

/-!
# Clearing the cookie of a sign-in

A callback is to end a sign-in for the browser too, so its response has the cookie of the sign-in
dropped (`Response.ClearsBinding`). The handler does this whatever comes of the sign-in, but only
for a query that could be read: one with a parameter given twice is turned away before. So the
cookie is cleared by all answers to callbacks whose query is unambiguous, and by no other
(`Service.clearsBinding_iff_unambiguous`). There is an answer unless the program stops, at a time
that has no room for the tokens of a session.
-/

namespace Gatehouse

/-! ### What a browser is told about a cookie -/

/-- The parts of a header value that sets a cookie: first the pair of its name and its value, then
what the browser is told about it. -/
def SetCookie.parts (header : String) : List (List Char) :=
  (Text.pieces ';' header.toList).map Text.trimChars

/-- Whether a header value leaves nothing of the cookie of a name: its value is empty, and the
browser is told to drop it, on all paths. -/
structure SetCookie.Drops (name header : String) : Prop where
  pair_eq : (parts header).head? = some (name ++ "=").toList
  path_mem : "Path=/".toList ∈ parts header
  maxAge_mem : "Max-Age=-1".toList ∈ parts header

/-- Whether a response has the cookie of a sign-in dropped. -/
def Response.ClearsBinding (response : Response) : Prop :=
  ∃ header, ("set-cookie", header) ∈ response.headers ∧
    SetCookie.Drops Service.bindingCookieName header

/-- The cookie is dropped over secure and over other connections. -/
theorem SetCookie.drops_text (secure : Bool) :
    Drops Service.bindingCookieName (text ⟨Service.bindingCookieName, "", secure, -1⟩) := by
  cases secure with
  | false => exact ⟨by decide +kernel, by decide +kernel, by decide +kernel⟩
  | true => exact ⟨by decide +kernel, by decide +kernel, by decide +kernel⟩

theorem Service.clearsBinding_withBindingCookie {m : Type → Type} (s : Service m) (r : Request)
    (response : Response) : (s.withBindingCookie r "" (-1) response).ClearsBinding :=
  ⟨_, List.mem_append_right _ (List.mem_singleton_self _), SetCookie.drops_text (s.isSecure r)⟩

/-- A response that says all by its status says nothing about the cookie. -/
theorem Response.not_clearsBinding_empty (status : Nat) : ¬ (empty status).ClearsBinding := by
  rintro ⟨header, hmem, -⟩
  exact List.not_mem_nil hmem

/-! ### Queries that can be read -/

/-- Whether a query gives each parameter of a callback at most once. -/
def CallbackQuery.Unambiguous (query : String) : Prop :=
  ∀ name ∈ ["code", "state", "error"],
    ((Form.decodeFields query.toList).map (·.1)).count name ≤ 1

theorem isSome_onlyValue?_iff (fields : List (String × String)) (name : String) :
    (onlyValue? fields name).isSome = true ↔ (fields.map (·.1)).count name ≤ 1 := by
  have hcount : (fields.map (·.1)).count name = (fields.filter (·.1 == name)).length := by
    rw [List.count, List.countP_map, List.countP_eq_length_filter]
    rfl
  rw [onlyValue?, hcount]
  generalize fields.filter (fun field => field.1 == name) = found
  rcases found with _ | ⟨field, _ | ⟨second, rest⟩⟩
  · simp
  · simp
  · simp

/-- The query of a callback is read if it is not ambiguous. -/
theorem CallbackQuery.isSome_read?_iff (query : String) :
    (read? query).isSome = true ↔ Unambiguous query := by
  have heach := isSome_onlyValue?_iff (Form.decodeFields query.toList)
  have hread : (read? query).isSome = true ↔
      ∀ name ∈ ["code", "state", "error"],
        (onlyValue? (Form.decodeFields query.toList) name).isSome = true := by
    simp only [read?, List.forall_mem_cons, List.not_mem_nil, false_imp_iff, implies_true, and_true]
    rcases onlyValue? (Form.decodeFields query.toList) "code" with _ | code
    · simp
    rcases onlyValue? (Form.decodeFields query.toList) "state" with _ | state
    · simp
    rcases onlyValue? (Form.decodeFields query.toList) "error" with _ | error
    · simp
    · simp
  rw [hread]
  exact forall₂_congr fun name _ => heach name

/-! ### Clearing -/

namespace Service

variable {τ : Type} (s : Service (StateM τ)) (o : Occasion)

/-- A callback whose query cannot be read is turned away, and nothing else happens. -/
theorem respond_callback_of_ambiguous {query : String} (h : CallbackQuery.read? query = none)
    (headers : List (String × String)) (body : String) (t : τ) :
    s.respond o ⟨"GET", "/auth/openid/callback", query, headers, body⟩ t =
      (some (.empty 400), t) := by
  have hpath : Route.ofPath? "/auth/openid/callback" = some .openIdCallback := by decide
  rw [respond_get s o query headers body hpath rfl, handle, openIdCallback, h]
  rfl

/-- **The cookie of a sign-in is cleared by every answer to a callback with an unambiguous query**,
whatever the service, its state and the provider are like and whatever comes of the sign-in. It is
left to the browser by every callback that gives a parameter twice: such a callback is turned away
before anything else happens. Only a callback of a service that offers sign-in, at a time that has
no room for its tokens, may get no answer. -/
theorem clearsBinding_iff_unambiguous (s : Service (StateM τ)) (o : Occasion) (query : String)
    (headers : List (String × String)) (body : String) (t : τ) :
    let out := s.respond o ⟨"GET", "/auth/openid/callback", query, headers, body⟩ t
    (∀ response, out.1 = some response →
        (response.ClearsBinding ↔ CallbackQuery.Unambiguous query)) ∧
      (CallbackQuery.Unambiguous query ∨ out = (some (.empty 400), t)) ∧
      (out.1 = none → ∃ f, s.federation = some f ∧ ¬ f.codec.HasRoom o.issuance.now) := by
  intro out
  rw [← CallbackQuery.isSome_read?_iff]
  cases hquery : CallbackQuery.read? query with
  | none =>
    have hout : out = (some (.empty 400), t) :=
      s.respond_callback_of_ambiguous o hquery headers body t
    rw [hout]
    refine ⟨?_, .inr rfl, nofun⟩
    rintro _ ⟨⟩
    exact iff_of_false (Response.not_clearsBinding_empty 400) (by simp)
  | some q =>
    have hout := s.respond_callback_eq o hquery headers body t
    refine ⟨fun response hresponse => ?_, .inl rfl, fun hnone => ?_⟩
    · obtain ⟨ending, -, rfl⟩ := Option.map_eq_some_iff.mp
        ((congrArg Prod.fst hout).symm.trans hresponse)
      exact iff_of_true (s.clearsBinding_withBindingCookie _ ending) rfl
    · by_contra hroom
      have hanswered := isSome_completeSignIn
        (fun f hf => not_not.mp fun h => hroom ⟨f, hf, h⟩) ⟨"GET", "/auth/openid/callback", query,
          headers, body⟩ q t
      rw [Option.map_eq_none_iff.mp ((congrArg Prod.fst hout).symm.trans hnone)] at hanswered
      cases hanswered

/-- A callback that gives its code twice leaves the cookie to the browser. -/
theorem not_clearsBinding_twice :
    ∃ response, (Sample.service.respond Offline.occasion
      ⟨"GET", "/auth/openid/callback", "code=abc&code=def&state=s1", [], ""⟩ .empty).1 =
        some response ∧ ¬ response.ClearsBinding := by
  have hquery : CallbackQuery.read? "code=abc&code=def&state=s1" = none := by decide +kernel
  rw [respond_callback_of_ambiguous _ _ hquery]
  exact ⟨_, rfl, Response.not_clearsBinding_empty 400⟩

end Service

end Gatehouse
