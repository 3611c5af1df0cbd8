import Mathlib.Data.List.Basic

/-
  Routers composed of paths, methods and layers.

  A `Router` maps path patterns to `MethodRouter`s, which map methods to endpoints of any type
  `E` and keep one more endpoint for the methods that are not registered. The operations are
  `route`, `merge` and `routeLayer`:
  * routing a path that is there already merges the two method routers;
  * `merge` keeps the endpoints of both sides as they are;
  * `routeLayer f` wraps every endpoint registered so far, and those for the methods that are
    not registered on these paths.

  `Router.All Q` says that `Q` holds of every endpoint with the pattern and method it is
  registered under. Each operation has a rule that carries `All` through it, and `All.dispatch`
  gives `Q` of the endpoint a request reaches.
-/

namespace ApiStarter.Web

inductive Method where
  | get
  | head
  | post
  | put
  | patch
  | delete
  | options
  | trace
  | connect
  | extension (name : String)
  deriving DecidableEq, Repr

/-! ## Paths -/

/-- The texts between slashes. -/
def splitSlash : List Char → List (List Char)
  | [] => [[]]
  | c :: cs =>
    if c = '/' then [] :: splitSlash cs
    else
      match splitSlash cs with
      | [] => [[c]]
      | piece :: rest => (c :: piece) :: rest

/-- The pieces of a path, which starts with a slash. -/
def pieces (path : String) : Option (List String) :=
  match path.toList with
  | '/' :: rest => some ((splitSlash rest).map String.ofList)
  | _ => none

inductive Segment where
  | literal (text : String)
  | param (name : String)
  deriving DecidableEq, Repr

/-- A piece in braces is a parameter. -/
def Segment.parse (piece : String) : Segment :=
  match piece.toList with
  | '{' :: rest =>
    if rest.getLast? = some '}' then .param (String.ofList rest.dropLast) else .literal piece
  | _ => .literal piece

abbrev Params := List (String × String)

/-- A parameter takes one piece, which is not empty. -/
def matchPieces : List Segment → List String → Option Params
  | [], [] => some []
  | .literal text :: pattern, piece :: rest =>
    if text = piece then matchPieces pattern rest else none
  | .param name :: pattern, piece :: rest =>
    if piece = "" then none else (matchPieces pattern rest).map ((name, piece) :: ·)
  | _, _ => none

def segments (pattern : String) : List Segment := ((pieces pattern).getD []).map Segment.parse

def matchPath (pattern path : String) : Option Params :=
  (pieces path).bind (matchPieces (segments pattern))

/-- Where two patterns first differ in kind, the literal comes first. -/
def precedes : List Segment → List Segment → Bool
  | .literal _ :: _, .param _ :: _ => true
  | .param _ :: _, .literal _ :: _ => false
  | _ :: ps, _ :: qs => precedes ps qs
  | _, _ => true

/-! ## Method routers -/

structure MethodRouter (E : Type) where
  endpoints : List (Method × E)
  /-- The endpoint for the methods that are not registered. -/
  notAllowed : E

namespace MethodRouter

variable {E : Type}

def on (notAllowed : E) (method : Method) (endpoint : E) : MethodRouter E :=
  { endpoints := [(method, endpoint)], notAllowed := notAllowed }

/-- The endpoints of both; of two default fallbacks the second is picked. -/
def merge (r s : MethodRouter E) : MethodRouter E :=
  { endpoints := r.endpoints ++ s.endpoints, notAllowed := s.notAllowed }

def layer (f : E → E) (r : MethodRouter E) : MethodRouter E :=
  { endpoints := r.endpoints.map fun entry => (entry.1, f entry.2), notAllowed := f r.notAllowed }

/-- `HEAD` falls back to the endpoint of `GET`. -/
def select (r : MethodRouter E) (method : Method) : E :=
  match r.endpoints.lookup method with
  | some endpoint => endpoint
  | none =>
    if method = .head then (r.endpoints.lookup .get).getD r.notAllowed else r.notAllowed

end MethodRouter

/-! ## Routers -/

structure Route (E : Type) where
  pattern : String
  methods : MethodRouter E

structure Router (E : Type) where
  routes : List (Route E)

namespace Router

variable {E : Type}

def new : Router E := { routes := [] }

def insert (pattern : String) (methods : MethodRouter E) : List (Route E) → List (Route E)
  | [] => [{ pattern := pattern, methods := methods }]
  | r :: rest =>
    if r.pattern = pattern then { r with methods := r.methods.merge methods } :: rest
    else r :: insert pattern methods rest

def route (pattern : String) (methods : MethodRouter E) (r : Router E) : Router E :=
  { routes := insert pattern methods r.routes }

/-- The routes of `s`, each routed in turn. -/
def merge (r s : Router E) : Router E :=
  s.routes.foldl (fun acc added => acc.route added.pattern added.methods) r

def routeLayer (f : E → E) (r : Router E) : Router E :=
  { routes := r.routes.map fun added => { added with methods := added.methods.layer f } }

/-- The matching route whose pattern precedes the others. -/
def best (path : String) : List (Route E) → Option (Route E × Params)
  | [] => none
  | r :: rest =>
    match matchPath r.pattern path, best path rest with
    | none, found => found
    | some params, none => some (r, params)
    | some params, some (r', params') =>
      if precedes (segments r.pattern) (segments r'.pattern) then some (r, params)
      else some (r', params')

/-- The endpoint a request reaches, with the parameters of its path. -/
def dispatch (r : Router E) (method : Method) (path : String) : Option (E × Params) :=
  (best path r.routes).map fun found => (found.1.methods.select method, found.2)

theorem best_spec {path : String} {routes : List (Route E)} {r : Route E} {params : Params}
    (h : best path routes = some (r, params)) :
    r ∈ routes ∧ matchPath r.pattern path = some params := by
  induction routes generalizing r params with
  | nil => cases h
  | cons r' rest ih =>
    unfold best at h
    cases hmatch : matchPath r'.pattern path with
    | none =>
      rw [hmatch] at h
      have hrest := ih h
      exact ⟨List.mem_cons_of_mem _ hrest.1, hrest.2⟩
    | some params' =>
      rw [hmatch] at h
      cases hfound : best path rest with
      | none =>
        rw [hfound] at h
        cases h
        exact ⟨List.mem_cons_self, hmatch⟩
      | some found =>
        rw [hfound] at h
        dsimp only at h
        split at h
        · cases h
          exact ⟨List.mem_cons_self, hmatch⟩
        · cases h
          have hrest := ih hfound
          exact ⟨List.mem_cons_of_mem _ hrest.1, hrest.2⟩

/-! ## What holds of every endpoint -/

/-- `none` stands for the methods that are not registered. -/
def Covers (Q : String → Option Method → E → Prop) (r : Route E) : Prop :=
  (∀ entry ∈ r.methods.endpoints, Q r.pattern (some entry.1) entry.2) ∧
    Q r.pattern none r.methods.notAllowed

def All (Q : String → Option Method → E → Prop) (r : Router E) : Prop :=
  ∀ added ∈ r.routes, Covers Q added

section

variable {Q Q' : String → Option Method → E → Prop} {r s : Router E}

theorem All.new : (new : Router E).All Q := fun _ h => absurd h List.not_mem_nil

theorem covers_insert {pattern : String} {methods : MethodRouter E} {routes : List (Route E)}
    (hroutes : ∀ added ∈ routes, Covers Q added)
    (hendpoints : ∀ entry ∈ methods.endpoints, Q pattern (some entry.1) entry.2)
    (hnot : Q pattern none methods.notAllowed) :
    ∀ added ∈ insert pattern methods routes, Covers Q added := by
  induction routes with
  | nil =>
    intro added hadded
    cases List.mem_singleton.1 hadded
    exact ⟨hendpoints, hnot⟩
  | cons r rest ih =>
    have hr : Covers Q r := hroutes r List.mem_cons_self
    have hrest := ih fun added hadded => hroutes added (List.mem_cons_of_mem _ hadded)
    unfold insert
    split
    next heq =>
      intro added hadded
      rcases List.mem_cons.1 hadded with rfl | hadded
      · refine ⟨fun entry hentry => ?_, ?_⟩
        · rcases List.mem_append.1 hentry with hold | hnew
          · exact hr.1 entry hold
          · exact heq ▸ hendpoints entry hnew
        · exact heq ▸ hnot
      · exact hroutes added (List.mem_cons_of_mem _ hadded)
    next =>
      intro added hadded
      rcases List.mem_cons.1 hadded with rfl | hadded
      · exact hr
      · exact hrest added hadded

/-- One more path with one endpoint. -/
theorem All.route {pattern : String} {notAllowed endpoint : E} {method : Method} (h : r.All Q)
    (hendpoint : Q pattern (some method) endpoint) (hnot : Q pattern none notAllowed) :
    (r.route pattern (.on notAllowed method endpoint)).All Q := by
  refine covers_insert h (fun entry hentry => ?_) hnot
  cases List.mem_singleton.1 hentry
  exact hendpoint

theorem All.merge (hr : r.All Q) (hs : s.All Q) : (r.merge s).All Q := by
  obtain ⟨routes⟩ := s
  unfold Router.merge
  induction routes generalizing r with
  | nil => exact hr
  | cons added rest ih =>
    have hadded : Covers Q added := hs added List.mem_cons_self
    refine ih (covers_insert hr hadded.1 hadded.2) fun other hother => ?_
    exact hs other (List.mem_cons_of_mem _ hother)

theorem All.routeLayer {f : E → E} (h : r.All Q)
    (hf : ∀ pattern method e, Q pattern method e → Q' pattern method (f e)) :
    (r.routeLayer f).All Q' := by
  intro added hadded
  obtain ⟨old, hold, rfl⟩ := List.mem_map.1 hadded
  refine ⟨fun entry hentry => ?_, hf _ _ _ (h old hold).2⟩
  obtain ⟨before, hbefore, rfl⟩ := List.mem_map.1 hentry
  exact hf _ _ _ ((h old hold).1 before hbefore)

/-- The method an endpoint is registered under, as a request sees it. -/
def Serves (registered : Option Method) (method : Method) : Prop :=
  ∀ m, registered = some m → m = method ∨ (method = .head ∧ m = .get)

theorem Serves.eq {m method : Method} (h : Serves (some m) method) (hm : m ≠ .get) :
    method = m := by
  rcases h m rfl with heq | ⟨-, hget⟩
  · exact heq.symm
  · exact absurd hget hm

theorem mem_of_lookup {method : Method} {endpoint : E} {entries : List (Method × E)}
    (h : entries.lookup method = some endpoint) : (method, endpoint) ∈ entries := by
  induction entries with
  | nil => cases h
  | cons entry rest ih =>
    rw [List.lookup_cons] at h
    split at h
    next heq =>
      cases h
      rw [beq_iff_eq.1 heq]
      exact List.mem_cons_self
    next => exact List.mem_cons_of_mem _ (ih h)

theorem select_spec {added : Route E} (h : Covers Q added) (method : Method) :
    ∃ registered, Q added.pattern registered (added.methods.select method) ∧
      Serves registered method := by
  unfold MethodRouter.select
  cases hlookup : added.methods.endpoints.lookup method with
  | some endpoint =>
    exact ⟨some method, h.1 _ (mem_of_lookup hlookup), fun m hm => .inl (Option.some.inj hm).symm⟩
  | none =>
    dsimp only
    split
    next hhead =>
      cases hget : added.methods.endpoints.lookup .get with
      | none => exact ⟨none, h.2, fun m hm => absurd hm (by simp)⟩
      | some endpoint =>
        exact ⟨some .get, h.1 _ (mem_of_lookup hget),
          fun m hm => .inr ⟨hhead, (Option.some.inj hm).symm⟩⟩
    next => exact ⟨none, h.2, fun m hm => absurd hm (by simp)⟩

theorem All.dispatch (h : r.All Q) {method : Method} {path : String} {endpoint : E}
    {params : Params} (hd : r.dispatch method path = some (endpoint, params)) :
    ∃ pattern registered, Q pattern registered endpoint ∧ Serves registered method ∧
      matchPath pattern path = some params := by
  obtain ⟨⟨added, params'⟩, hbest, heq⟩ := Option.map_eq_some_iff.1 hd
  cases heq
  obtain ⟨hadded, hmatch⟩ := best_spec hbest
  obtain ⟨registered, hQ, hserves⟩ := select_spec (h added hadded) method
  exact ⟨added.pattern, registered, hQ, hserves, hmatch⟩

end

end Router

end ApiStarter.Web
