import ComposingProxy.Proofs.Address.HostText
import ComposingProxy.Proofs.Http.Stamps

/-!
# The parameters of the `forwarded` field

The `forwarded` field tells in four parameters, with semicolons between them, by whom a request is
passed on, for whom, for which host and over which scheme. It is put together of texts as they are, and
those of the client may hold semicolons themselves:

> `Request.forwarded_parameters`: the parameters are those four, with the addresses and the host
> cut at their own semicolons. So there are just the four of them exactly if no address
> that the client names and no host has a semicolon.

The proxy's own address and the scheme never have one: an address is made of digits, dots and colons, and a
scheme of letters, digits and a few marks (`Uri.isSchemeChar_of_parse`).
-/

namespace ComposingProxy

/-! ## Cutting at a mark -/

namespace Text

/-- A text is cut in one part more than there are marks. -/
theorem length_splitOn (mark : Char) (s : List Char) :
    (s.splitOn mark).length = s.count mark + 1 := by
  induction s with
  | nil => rfl
  | cons c s ih =>
    rw [List.splitOn_cons_eq_if_modifyHead, List.count_cons]
    split
    · rw [List.length_cons, ih]
    · rw [List.length_modifyHead, ih, Nat.add_zero]

/-- A mark that does not stand between the parts is in the joined text as often as in the parts. -/
theorem count_toList_intercalate {mark : Char} {between : String} (hmark : mark ∉ between.toList)
    (parts : List String) :
    (String.intercalate between parts).toList.count mark =
      (parts.flatMap String.toList).count mark := by
  induction parts with
  | nil => rfl
  | cons part rest ih =>
    cases rest with
    | nil => simp
    | cons next rest =>
      rw [String.intercalate_cons_cons, String.toList_append, String.toList_append,
        List.count_append, List.count_append, List.count_eq_zero_of_not_mem hmark, ih,
        Nat.add_zero]
      exact List.count_append.symm

end Text

namespace IpAddress

/-- An address has no semicolon in it. -/
theorem count_semicolon_render (address : IpAddress) : address.render.toList.count ';' = 0 := by
  refine List.count_eq_zero_of_not_mem fun hmem => ?_
  have hdotted (value : Nat) : ';' ∉ (renderV4 value).toList := fun h =>
    absurd (isDotted_of_mem_renderV4 value ';' h) (by decide)
  cases address with
  | v4 value => exact hdotted value hmem
  | v6 groups =>
    unfold render at hmem
    dsimp only at hmem
    split at hmem
    · rw [String.toList_append, List.mem_append] at hmem
      exact hmem.elim (by decide) (hdotted _)
    · rcases isGroupChar_of_mem_renderGroups groups ';' hmem with hcolon | halnum
      · exact absurd hcolon (by decide)
      · exact absurd halnum (by decide)

end IpAddress

/-! ## Parameters -/

namespace Headers

/-- The parameters of a `forwarded` value: what stands between its semicolons. -/
def parameters (value : String) : List String := (value.toList.splitOn ';').map String.ofList

/-- The parameters of two values that are joined by a semicolon are those of both. -/
theorem parameters_append (a b : String) :
    parameters (a ++ ";" ++ b) = parameters a ++ parameters b := by
  have htext : (a ++ ";" ++ b).toList = a.toList ++ ';' :: b.toList := by
    simp [String.toList_append]
  rw [parameters, htext, List.splitOn_append_cons_self, List.map_append]
  rfl

/-- A value without a semicolon is one parameter. -/
theorem parameters_of_not_mem {value : String} (h : ';' ∉ value.toList) :
    parameters value = [value] := by
  rw [parameters, List.splitOn_eq_singleton h, List.map_singleton, String.ofList_toList]

theorem parameters_named {name value : String} (hname : ';' ∉ name.toList)
    (hvalue : ';' ∉ value.toList) : parameters (name ++ value) = [name ++ value] := by
  refine parameters_of_not_mem fun hmem => ?_
  rw [String.toList_append] at hmem
  exact (List.mem_append.mp hmem).elim hname hvalue

/-- There is one parameter more than there are semicolons. -/
theorem length_parameters (value : String) :
    (parameters value).length = value.toList.count ';' + 1 := by
  rw [parameters, List.length_map, Text.length_splitOn]

/-- The parameters of the proxy and of the scheme stand whole, those in between are cut. -/
theorem parameters_forwardedValue (egress : IpAddress) (addresses host : String) {scheme : String}
    (hscheme : ';' ∉ scheme.toList) :
    parameters (forwardedValue egress addresses host scheme) =
      ["by=" ++ egress.render] ++ parameters ("for=" ++ addresses) ++ parameters ("host=" ++ host) ++
        ["proto=" ++ scheme] := by
  have hcut : forwardedValue egress addresses host scheme =
      "by=" ++ egress.render ++ ";" ++ ("for=" ++ addresses) ++ ";" ++ ("host=" ++ host) ++ ";" ++
        ("proto=" ++ scheme) := by
    apply String.toList_inj.mp
    simp [forwardedValue, String.toList_append]
  have hegress : ';' ∉ egress.render.toList :=
    List.count_eq_zero.mp egress.count_semicolon_render
  rw [hcut, parameters_append, parameters_append, parameters_append,
    parameters_named (by decide) hegress, parameters_named (by decide) hscheme]

/-- Every semicolon of the addresses or the host makes one parameter more than the four. -/
theorem length_parameters_forwardedValue (egress : IpAddress) (addresses host : String)
    {scheme : String} (hscheme : ';' ∉ scheme.toList) :
    (parameters (forwardedValue egress addresses host scheme)).length =
      4 + addresses.toList.count ';' + host.toList.count ';' := by
  have hfor : "for=".toList.count ';' = 0 := by decide
  have hhost : "host=".toList.count ';' = 0 := by decide
  rw [parameters_forwardedValue egress addresses host hscheme]
  simp only [List.length_append, length_parameters, String.toList_append, List.count_append, hfor,
    hhost, List.length_singleton]
  omega

/-- The semicolons of the addresses are those that the client wrote. -/
theorem count_semicolon_forwardedFor (headers : Headers) (client : IpAddress) :
    (headers.forwardedFor (some client)).toList.count ';' =
      ((headers.visible "x-forwarded-for").flatMap String.toList).count ';' := by
  have hbetween : ';' ∉ ", ".toList := by decide
  have hnamed := Text.count_toList_intercalate hbetween (headers.visible "x-forwarded-for")
  unfold forwardedFor
  dsimp only
  split
  · next hempty =>
    rw [hempty] at hnamed
    rw [← hnamed]
    exact client.count_semicolon_render
  · exact hnamed

/-- The list of addresses has a semicolon just if the client sent one. -/
theorem semicolon_not_mem_forwardedFor (headers : Headers) (client : IpAddress) :
    ';' ∉ (headers.forwardedFor (some client)).toList ↔
      ∀ address ∈ headers.visible "x-forwarded-for", ';' ∉ address.toList := by
  rw [← List.count_eq_zero, count_semicolon_forwardedFor, List.count_eq_zero]
  simp only [List.mem_flatMap, not_exists, not_and]

end Headers

namespace Request

open Headers

variable {request : Request} {text : String} {client : IpAddress}

/-- The scheme of a URI that was read has no semicolon. -/
theorem semicolon_not_mem_scheme (hrequest : Uri.parse text = .ok request.uri) :
    ';' ∉ request.scheme.toList := by
  unfold scheme
  cases hscheme : request.uri.scheme with
  | none => decide
  | some scheme =>
    exact fun hmem => absurd (Uri.isSchemeChar_of_parse hrequest scheme hscheme ';' hmem) (by decide)

/-- The parameters of the `forwarded` field are those of the proxy, of the addresses, of the host and
of the scheme, one after the other, where each semicolon in an address that the client names
or in the host makes one parameter more. So they are the four that are meant exactly if there
is no such semicolon. -/
theorem forwarded_parameters (hrequest : Uri.parse text = .ok request.uri)
    (hclient : client.IsComplete) (egress : IpAddress) :
    ∃ value, (request.headers.setForwarding request.host request.scheme (some client)
        egress).values "forwarded" = [value] ∧
      parameters value =
        ["by=" ++ egress.render] ++
          parameters ("for=" ++ request.headers.forwardedFor (some client)) ++
          parameters ("host=" ++ request.host) ++ ["proto=" ++ request.scheme] ∧
      (parameters value).length =
        4 + ((request.headers.visible "x-forwarded-for").flatMap String.toList).count ';' +
          request.host.toList.count ';' ∧
      ((∃ named, parameters value =
          ["by=" ++ egress.render, "for=" ++ named, "host=" ++ request.host,
            "proto=" ++ request.scheme]) ↔
        (∀ address ∈ request.headers.visible "x-forwarded-for", ';' ∉ address.toList) ∧
          ';' ∉ request.host.toList) := by
  have hvisible := Uri.hasVisibleParts_of_parse hrequest
  have hfield : (request.headers.setForwarding request.host request.scheme (some client)
      egress).values "forwarded" = [forwardedValue egress (request.headers.forwardedFor
        (some client)) request.host request.scheme] :=
    Headers.values_setForwarding egress hclient (isVisible_host hvisible)
      (isVisible_scheme hvisible) "forwarded"
  have hscheme := semicolon_not_mem_scheme hrequest
  have hparts := parameters_forwardedValue egress (request.headers.forwardedFor (some client))
    request.host hscheme
  have hlength := length_parameters_forwardedValue egress
    (request.headers.forwardedFor (some client)) request.host hscheme
  refine ⟨_, hfield, hparts, by rw [hlength, count_semicolon_forwardedFor], ?_⟩
  rw [← semicolon_not_mem_forwardedFor request.headers client]
  constructor
  · rintro ⟨named, hfour⟩
    -- four parameters leave no room for a semicolon
    rw [hfour] at hlength
    simp only [List.length_cons, List.length_nil] at hlength
    exact ⟨List.count_eq_zero.mp (by omega), List.count_eq_zero.mp (by omega)⟩
  · rintro ⟨haddresses, hhost⟩
    refine ⟨request.headers.forwardedFor (some client), ?_⟩
    rw [hparts, parameters_named (by decide) haddresses, parameters_named (by decide) hhost]
    rfl

/-! ### A client that says what the scheme was -/

/-- A request whose `x-forwarded-for` field holds the given text. -/
def claiming (addresses : String) : Request :=
  { uri := { path := "/" }
    headers := ⟨[("host", "shop.test"), ("x-forwarded-for", addresses)]⟩ }

/-- The four parameters for an address, and a fifth for one with a semicolon. -/
theorem forwarded_parameters_claimed :
    Uri.parse "/" = .ok (claiming "10.0.0.1").uri ∧
      (∃ value, ((claiming "10.0.0.1").headers.setForwarding "shop.test" "http"
          (some (.v4 0x7F000001)) (.v4 0)).values "forwarded" = [value] ∧
        ∃ named, parameters value = ["by=0.0.0.0", "for=" ++ named, "host=shop.test", "proto=http"]) ∧
      ∃ value, ((claiming "10.0.0.1;proto=https").headers.setForwarding "shop.test" "http"
          (some (.v4 0x7F000001)) (.v4 0)).values "forwarded" = [value] ∧
        (parameters value).length = 5 := by
  have hrequest : Uri.parse "/" = .ok (claiming "10.0.0.1").uri := by decide +kernel
  have hclient : IpAddress.IsComplete (.v4 0x7F000001) := trivial
  obtain ⟨value, hvalue, -, -, hfour⟩ := forwarded_parameters hrequest hclient (.v4 0)
  have hclaimed : Uri.parse "/" = .ok (claiming "10.0.0.1;proto=https").uri := hrequest
  obtain ⟨claimed, hfield, -, hlength, -⟩ := forwarded_parameters hclaimed hclient (.v4 0)
  exact ⟨hrequest, ⟨value, hvalue, hfour.mpr (by decide +kernel)⟩,
    claimed, hfield, hlength.trans (by decide +kernel)⟩

/-- It is not so that the client cannot add a parameter: one that writes a second scheme after
its address has it passed on, in front of the true one. -/
theorem not_always_four_parameters :
    ¬∀ (request : Request) (text : String) (client egress : IpAddress),
      Uri.parse text = .ok request.uri → client.IsComplete →
        ∃ value, (request.headers.setForwarding request.host request.scheme (some client)
            egress).values "forwarded" = [value] ∧
          ∃ named, parameters value =
            ["by=" ++ egress.render, "for=" ++ named, "host=" ++ request.host,
              "proto=" ++ request.scheme] := by
  intro hall
  obtain ⟨value, hvalue, named, hnamed⟩ := hall (claiming "10.0.0.1;proto=https") "/"
    (.v4 0x7F000001) (.v4 0) (by decide +kernel) trivial
  have hfield : ((claiming "10.0.0.1;proto=https").headers.setForwarding "shop.test" "http"
      (some (.v4 0x7F000001)) (.v4 0)).values "forwarded" =
        ["by=0.0.0.0;for=10.0.0.1;proto=https;host=shop.test;proto=http"] := by decide +kernel
  have hfive : (parameters "by=0.0.0.0;for=10.0.0.1;proto=https;host=shop.test;proto=http").length =
      5 := by decide +kernel
  rw [List.singleton_inj.mp (hfield.symm.trans hvalue), hnamed] at hfive
  simp only [List.length_cons, List.length_nil] at hfive
  omega

end Request

end ComposingProxy
