import BinapiGenerator.Comment
import Mathlib.Data.List.Nodup

/-! `generateServices`: the `Service` interface with one method per service, and the
`service` client that implements each method over an `api.Channel`. A stream service
whose request name ends in `Dump` has the suffix moved to the front of its method name. -/

namespace BinapiGenerator

open Go

def serviceMethodName (h : Helpers) (svc : Service) : String :=
  let method := h.camelCaseName svc.requestType
  if svc.stream then
    if method ≠ trimSuffix method "Dump" then "Dump" ++ trimSuffix method "Dump" else method
  else method

def generateServiceMethod (h : Helpers) (svc : Service) : List String :=
  let reqTyp := h.camelCaseName svc.requestType
  let params := "in *" ++ reqTyp
  let replyType := h.camelCaseName svc.replyType
  let returns := if replyType ≠ "" then
      "(" ++ (if svc.stream then "[]*" else "*") ++ replyType ++ ", error)"
    else "error"
  ["\t" ++ serviceMethodName h svc ++ "(ctx context.Context, " ++ params ++ ") " ++ returns]

def serviceClientBody (h : Helpers) (svc : Service) : List String :=
  if svc.stream then
    let replyTyp := h.camelCaseName svc.replyType
    ["\tvar dump []*" ++ replyTyp ++ "\n", "\treq := c.ch.SendMultiRequest(in)\n",
      "\tfor \x7b\n", "\tm := new(" ++ replyTyp ++ ")\n", "\tstop, err := req.ReceiveReply(m)\n",
      "\tif stop \x7b break \x7d\n", "\tif err != nil \x7b return nil, err \x7d\n",
      "\tdump = append(dump, m)\n", "\x7d\n", "\treturn dump, nil\n"]
  else if h.camelCaseName svc.replyType ≠ "" then
    ["\tout := new(" ++ h.camelCaseName svc.replyType ++ ")\n",
      "\terr:= c.ch.SendRequest(in).ReceiveReply(out)\n",
      "\tif err != nil \x7b return nil, err \x7d\n", "\treturn out, nil\n"]
  else ["\tc.ch.SendRequest(in)\n", "\treturn nil\n"]

def generateServices (h : Helpers) (ctx : Context) (services : List Service) : List String :=
  generateComment ctx "Service" "services" "service" ++ ["type Service interface \x7b\n"] ++
    services.flatMap (fun svc => generateServiceMethod h svc ++ ["\n"]) ++
    ["\x7d\n", "\n", "type service struct \x7b\n", "\tch api.Channel\n", "\x7d\n", "\n",
      "func NewService(ch api.Channel) Service \x7b\n", "\treturn &service\x7bch\x7d\n", "\x7d\n",
      "\n"] ++
    services.flatMap (fun svc => ["func (c *service) "] ++ generateServiceMethod h svc ++
      [" \x7b\n"] ++ serviceClientBody h svc ++ ["\x7d\n", "\n"]) ++ ["\n"]

/-- A stream service whose normalized request name ends in `Dump`. -/
def MovesDump (h : Helpers) (svc : Service) : Prop :=
  svc.stream = true ∧ trimSuffix (h.camelCaseName svc.requestType) "Dump" ≠
    h.camelCaseName svc.requestType

instance (h : Helpers) : DecidablePred (MovesDump h) :=
  fun _ => inferInstanceAs (Decidable (_ ∧ _))

theorem serviceMethodName_eq (h : Helpers) (svc : Service) :
    serviceMethodName h svc = if MovesDump h svc then
      "Dump" ++ trimSuffix (h.camelCaseName svc.requestType) "Dump"
    else h.camelCaseName svc.requestType := by
  unfold serviceMethodName MovesDump
  by_cases hs : svc.stream = true
  · simp only [hs, if_true, true_and, ne_comm]
  · simp only [hs, Bool.false_eq_true, false_and, if_false]

theorem trimSuffix_append_of_ne {s p : String} (h : trimSuffix s p ≠ s) :
    trimSuffix s p ++ p = s := by
  unfold trimSuffix hasSuffix at *
  split_ifs at * with hs
  · obtain ⟨t, ht⟩ := List.isSuffixOf_iff_suffix.mp hs
    apply String.ext
    have hl : s.length - p.length = t.length := by
      show s.data.length - p.data.length = t.length
      rw [← ht, List.length_append]
      omega
    simp only [String.data_append, hl, ← ht, List.take_left']
  · exact absurd rfl h

theorem dump_append_inj {a b : String} (h : "Dump" ++ a = "Dump" ++ b) : a = b :=
  String.ext (List.append_cancel_left (congrArg String.data h))

theorem requestType_eq_of_movesDump {h : Helpers} {s s' : Service} (hs : MovesDump h s)
    (hs' : MovesDump h s') (he : serviceMethodName h s = serviceMethodName h s') :
    h.camelCaseName s.requestType = h.camelCaseName s'.requestType := by
  rw [serviceMethodName_eq, serviceMethodName_eq, if_pos hs, if_pos hs'] at he
  rw [← trimSuffix_append_of_ne hs.2, ← trimSuffix_append_of_ne hs'.2, dump_append_inj he]

/-- Services with distinct normalized request names get distinct method names exactly when
no service that moves `Dump` to the front is given the request name of a service that
does not. -/
theorem serviceMethodNames_nodup_iff (h : Helpers) (services : List Service)
    (hreq : (services.map fun s => h.camelCaseName s.requestType).Nodup) :
    (services.map (serviceMethodName h)).Nodup ↔
      ∀ s ∈ services, ∀ s' ∈ services, MovesDump h s → ¬ MovesDump h s' →
        "Dump" ++ trimSuffix (h.camelCaseName s.requestType) "Dump" ≠
          h.camelCaseName s'.requestType := by
  have hinj := List.inj_on_of_nodup_map hreq
  constructor
  · intro hnd s hs s' hs' hm hm' he
    have he' : serviceMethodName h s = serviceMethodName h s' := by
      rw [serviceMethodName_eq, serviceMethodName_eq, if_pos hm, if_neg hm', he]
    exact hm' (List.inj_on_of_nodup_map hnd hs hs' he' ▸ hm)
  · intro hno
    refine List.Nodup.map_on (fun x hx y hy he => ?_) (List.Nodup.of_map _ hreq)
    by_cases hmx : MovesDump h x <;> by_cases hmy : MovesDump h y
    · exact hinj hx hy (requestType_eq_of_movesDump hmx hmy he)
    · rw [serviceMethodName_eq, serviceMethodName_eq, if_pos hmx, if_neg hmy] at he
      exact absurd he (hno x hx y hy hmx hmy)
    · rw [serviceMethodName_eq, serviceMethodName_eq, if_neg hmx, if_pos hmy] at he
      exact absurd he.symm (hno y hy x hx hmy hmx)
    · rw [serviceMethodName_eq, serviceMethodName_eq, if_neg hmx, if_neg hmy] at he
      exact hinj hx hy he

theorem serviceMethodNames_nodup_dump :
    let svcs : List Service := [⟨"interface_dump", "interface_details", true⟩,
      ⟨"want_stats", "want_stats_reply", false⟩]
    (svcs.map fun s => Helpers.vpp.camelCaseName s.requestType).Nodup ∧
      ((svcs.map (serviceMethodName Helpers.vpp)).Nodup ↔
        ∀ s ∈ svcs, ∀ s' ∈ svcs, MovesDump Helpers.vpp s → ¬ MovesDump Helpers.vpp s' →
          "Dump" ++ trimSuffix (Helpers.vpp.camelCaseName s.requestType) "Dump" ≠
            Helpers.vpp.camelCaseName s'.requestType) := by
  intro svcs
  exact ⟨by decide, serviceMethodNames_nodup_iff Helpers.vpp svcs (by decide)⟩

/-- A stream `foo_dump` and a plain `dump_foo` have distinct request names but one method
name, so the generated interface declares `DumpFoo` twice. -/
theorem generateServices_dump_collision :
    let svcs : List Service := [⟨"foo_dump", "foo_details", true⟩,
      ⟨"dump_foo", "dump_foo_reply", false⟩]
    (svcs.map fun s => Helpers.vpp.camelCaseName s.requestType) = ["FooDump", "DumpFoo"] ∧
      svcs.map (serviceMethodName Helpers.vpp) = ["DumpFoo", "DumpFoo"] ∧
      List.Sublist ["\tDumpFoo(ctx context.Context, in *FooDump) ([]*FooDetails, error)", "\n",
          "\tDumpFoo(ctx context.Context, in *DumpFoo) (*DumpFooReply, error)"]
        (generateServices Helpers.vpp (commentContext "") svcs) := by
  decide

end BinapiGenerator
