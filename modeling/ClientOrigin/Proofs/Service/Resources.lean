import ClientOrigin.Proofs.Service.Server
import ClientOrigin.Proofs.Service.Stack

/-!
# Answers of resources and answers of layers

A layer may answer by itself, and one can tell its answers from those of the resources.

* **resources** — an answer of a resource has no id, and its status is not that of a refusal
  (`plain_server`, `plain_probe`), and completing an answer changes neither;
* **refusals** — so the status of an answer tells whether the request got past the outer layers of
  a stack (`refused_iff`).
-/

namespace ClientOrigin

namespace HeaderMap

theorem all_addMissing_of_ne (headers : HeaderMap) {name other : HeaderName} (h : other ≠ name)
    (value : HeaderValue) : (headers.addMissing name value).all other = headers.all other := by
  unfold addMissing
  split
  · rfl
  · exact all_append_of_ne headers h value

theorem all_addMissing_of_nil {headers : HeaderMap} {name : HeaderName}
    (none : headers.all name = []) (value : HeaderValue) :
    (headers.addMissing name value).all name = [value] := by
  unfold addMissing has first?
  rw [none, List.head?_nil, if_neg (by decide), all_append_self, none, List.nil_append]

theorem first?_append_of_none {headers : HeaderMap} {name : HeaderName}
    (none : headers.first? name = none) (value : HeaderValue) :
    (headers.append name value).first? name = some value := by
  unfold first? at none ⊢
  rw [all_append_self, List.head?_eq_none_iff.mp none]
  rfl

end HeaderMap

/-- An answer of a resource: it has no id, and its status is none of those that a layer gives by
itself. -/
structure Response.OfResource (r : Response) : Prop where
  ids : r.headers.all .requestId = []
  granted : r.status ≠ .tooManyRequests
  inTime : r.status ≠ .requestTimeout

theorem Response.OfResource.refusal?_ne {r : Response} (resource : r.OfResource) (layer : Layer) :
    layer.refusal? ≠ some r.status := by
  intro refused
  cases layer with
  | rateLimit => exact resource.granted (Option.some.inj refused).symm
  | timeout => exact resource.inTime (Option.some.inj refused).symm
  | clientAddress => cases refused
  | trace => cases refused
  | propagateId => cases refused
  | assignId => cases refused

theorem Response.ofResource_withBody {status : Status} (granted : status ≠ .tooManyRequests)
    (inTime : status ≠ .requestTimeout) (type : HeaderValue) (body : Text) :
    (withBody status type body).OfResource :=
  ⟨HeaderMap.all_cons_of_ne (by decide) type [], granted, inTime⟩

theorem Handler.ofResource_withClient {answer : Resolution → Response}
    (plain : ∀ client, (answer client).OfResource) (v : Visit) :
    (withClient answer v).OfResource := by
  unfold withClient
  split
  · exact plain _
  · exact Response.ofResource_withBody Status.noConfusion Status.noConfusion _ _

namespace Routes

/-- All answers are those of resources. -/
def Plain (routes : Routes) : Prop := ∀ v, (routes.respond v).OfResource

theorem plain_of_handlers {routes : Routes}
    (plain : ∀ entry ∈ routes, ∀ v, (entry.2 v).OfResource) : routes.Plain := by
  intro v
  unfold respond find?
  cases found : List.lookup v.request.target.path routes with
  | none => exact ⟨rfl, Status.noConfusion, Status.noConfusion⟩
  | some handler =>
      obtain ⟨front, back, split, _⟩ := List.lookup_eq_some_iff.mp found
      have mem : (v.request.target.path, handler) ∈ routes :=
        split ▸ List.mem_append_right front List.mem_cons_self
      dsimp only
      split
      · exact plain _ mem v
      · exact ⟨rfl, Status.noConfusion, Status.noConfusion⟩

theorem plain_server : server.Plain := by
  refine plain_of_handlers fun entry mem v => ?_
  rcases List.mem_cons.mp mem with rfl | mem
  · exact Handler.ofResource_withClient (fun _ =>
      Response.ofResource_withBody Status.noConfusion Status.noConfusion _ _) v
  · obtain rfl := List.mem_singleton.mp mem
    exact Response.ofResource_withBody Status.noConfusion Status.noConfusion _ _

theorem plain_probe : probe.Plain := by
  refine plain_of_handlers fun entry mem v => ?_
  rcases List.mem_cons.mp mem with rfl | mem
  · exact Handler.ofResource_withClient (fun _ =>
      Response.ofResource_withBody Status.noConfusion Status.noConfusion _ _) v
  · obtain rfl := List.mem_singleton.mp mem
    exact Response.ofResource_withBody Status.noConfusion Status.noConfusion _ _

/-- Completing an answer leaves the ids in it alone. -/
theorem completed_ids (routes : Routes) (q : Request) (r : Response) :
    (routes.completed q r).headers.all .requestId = r.headers.all .requestId := by
  have measured : ∀ r : Response, (r.measured.bodyFor q.method).headers.all .requestId =
      r.headers.all .requestId := by
    intro r
    unfold Response.bodyFor
    split <;> exact HeaderMap.all_addMissing_of_ne _ (by decide) _
  unfold completed
  split
  · rw [measured]
    unfold withAllowed
    split
    · rfl
    · exact HeaderMap.all_addMissing_of_ne _ (by decide) _
  · split
    · rfl
    · exact measured r

end Routes

/-! ## Refusals -/

namespace Application

open Layer

/-- A request does not get past the outer layers exactly if its answer is the refusal of one of
them. -/
theorem refused_iff {app : Application} (plain : app.routes.Plain) {near outer : List Layer}
    (stack : app.layers = near ++ outer) (single : app.layers.Nodup) (q : Request)
    (st : ServiceState) :
    (∃ o, through app.environment outer (.ofRequest q) st = .error o) ↔
      ∃ layer ∈ outer, layer.refusal? = some (app.handle q st).response.status := by
  have split : (app.handle q st).response.status = (Service.inside app.environment outer
      (Service.inside app.environment near app.routes.service)
      (.ofRequest q) st).response.status := by
    unfold handle
    dsimp only
    rw [Routes.completed_status, stack, inside_append]
  have outside := inside_answer app.environment outer
    (Service.inside app.environment near app.routes.service) (.ofRequest q) st
  rw [split]
  cases passed : through app.environment outer (.ofRequest q) st with
  | error o =>
      rw [passed] at outside
      exact ⟨fun _ => outside, fun _ => ⟨o, rfl⟩⟩
  | ok x =>
      rw [passed] at outside
      dsimp only at outside
      rw [outside.1]
      constructor
      · rintro ⟨o, impossible⟩
        cases impossible
      · rintro ⟨layer, mem, refused⟩
        have within := inside_answer app.environment near app.routes.service x.1 x.2
        cases reached : through app.environment near x.1 x.2 with
        | error o =>
            -- two layers of the stack would give the same refusal
            rw [reached] at within
            obtain ⟨other, here, same⟩ := within
            obtain rfl := refusal?_inj same refused
            rw [stack] at single
            exact absurd rfl ((List.nodup_append.mp single).2.2 _ here _ mem)
        | ok y =>
            rw [reached] at within
            dsimp only at within
            rw [within.1] at refused
            exact absurd refused ((plain y.1).refusal?_ne layer)

end Application

end ClientOrigin
