import MeshSurvey.Address.RouteTable
import MeshSurvey.Proofs.Search
import MeshSurvey.Proofs.Text.Line
import MeshSurvey.Proofs.Text.Numeral

/-!
# Whose gateway a routing table gives

The kernel writes a route as words with tabs between them. An address among them is a number in
eight hexadecimal digits, and the first octet of the address is the least significant byte of that
number. A route holds for the addresses that agree with its destination in the bits of its mask, so
that in a default route, which holds for all of them, both are zero.

The gateway is taken from the first route whose destination is zero. That need not be a default
route: the destination of a route for the lower half of all addresses is zero as well, but its mask
is not.
-/

namespace MeshSurvey

namespace IPv4

/-- The address with all bits zero. -/
def unspecified : IPv4 := ⟨0, 0, 0, 0⟩

/-- The number whose digits in base 256 are the octets, the least significant digit first. -/
def littleEndian (ip : IPv4) : Nat :=
  ip.a.toNat + 256 * (ip.b.toNat + 256 * (ip.c.toNat + 256 * ip.d.toNat))

theorem littleEndian_lt (ip : IPv4) : ip.littleEndian < UInt32.size := by
  have ha := ip.a.toNat_lt
  have hb := ip.b.toNat_lt
  have hc := ip.c.toNat_lt
  have hd := ip.d.toNat_lt
  rw [littleEndian, UInt32.size]
  omega

theorem ofLittleEndian_littleEndian (ip : IPv4) : ofLittleEndian ip.littleEndian = ip := by
  have ha := ip.a.toNat_lt
  have hb := ip.b.toNat_lt
  have hc := ip.c.toNat_lt
  have hd := ip.d.toNat_lt
  rw [ofLittleEndian, littleEndian]
  simp only [Nat.shiftRight_eq_div_pow]
  congr 1
  -- a shift drops the octets below, and those above are multiples of 256
  all_goals
    rw [← UInt8.toNat_inj, UInt8.toNat_ofNat']
    omega

end IPv4

namespace RouteTable

/-! ## Routes as they are written -/

/-- A line, which goes on to its end without a line feed. -/
structure Line where
  /-- The characters of the line. -/
  text : List Char
  /-- The line is not broken. -/
  unbroken : '\n' ∉ text

/-- An interface of the network. -/
structure Interface where
  /-- The name of the interface. -/
  name : List Char
  /-- The name has no white space in it, and it is not empty. -/
  isWord : Text.IsWord name

/-- A route that the kernel knows. -/
structure Route where
  /-- The interface to which packets go. -/
  interface : Interface
  /-- The route holds for the addresses that agree with this one in the bits of the mask. -/
  destination : IPv4
  /-- The host that passes packets on. -/
  gateway : IPv4
  /-- What kind of route it is. -/
  flags : UInt16
  /-- How often the route is referred to. -/
  references : Int
  /-- How often the route was looked up. -/
  uses : Int
  /-- Of two routes the one with the lower metric is preferred. -/
  metric : Int
  /-- Which bits of the destination count. -/
  mask : IPv4
  /-- The largest size of a packet. -/
  mtu : Int
  /-- The window for connections. -/
  window : Int
  /-- The initial round trip time. -/
  roundTrip : Int

/-- An address in eight hexadecimal digits, the last octet first. -/
def address (ip : IPv4) : List Char := Text.hexDigits 8 ip.littleEndian

namespace Route

variable (r : Route)

/-- A default route holds for all addresses. -/
def IsDefault : Prop := r.destination = .unspecified ∧ r.mask = .unspecified

instance : Decidable r.IsDefault := inferInstanceAs (Decidable (_ ∧ _))

/-- What is written of a route, in this order. -/
def fields : List (List Char) :=
  [r.interface.name, address r.destination, address r.gateway, Text.hexDigits 4 r.flags.toNat,
    (toString r.references).toList, (toString r.uses).toList, (toString r.metric).toList,
    address r.mask, (toString r.mtu).toList, (toString r.window).toList,
    (toString r.roundTrip).toList]

end Route

/-- A line behind the header. -/
inductive Row where
  /-- A route, with tabs between what is written of it and any number of blanks behind. -/
  | route (r : Route) (padding : Nat)
  /-- A line with fewer than three fields. -/
  | short (line : Line) {fields : List (List Char)} (h : Text.HasWords fields line.text)
    (hfew : fields.length < 3)

namespace Row

/-- The characters of the line. -/
def text : Row → List Char
  | route r padding => ['\t'].intercalate r.fields ++ List.replicate padding ' '
  | short line _ _ => line.text

/-- The route that is written in the line. -/
def route? : Row → Option Route
  | route r _ => some r
  | short _ _ _ => none

end Row

/-- The table with a header and lines behind it, each of them ended by a line feed. -/
def table (header : Line) (rows : List Row) : String :=
  String.ofList ((header.text :: rows.map Row.text).flatMap (· ++ ['\n']))

/-! ## Fields -/

theorem isWord_hexDigits {width : Nat} (hwidth : width ≠ 0) (n : Nat) :
    Text.IsWord (Text.hexDigits width n) where
  ne_nil := Text.hexDigits_ne_nil hwidth n
  notBlank := by
    intro c hc
    obtain ⟨value, hvalue, rfl⟩ := Text.exists_hexDigit_of_mem hc
    have hdigits : ∀ value < 16, Text.isBlank (Text.hexDigit value) = false := by decide
    exact hdigits value hvalue

theorem isWord_toString (n : Int) : Text.IsWord (toString n).toList where
  ne_nil := by
    rw [Text.toList_toString]
    exact List.append_ne_nil_of_right_ne_nil _ Nat.toDigits_ne_nil
  notBlank := by
    intro c hc
    rw [Text.toList_toString, List.mem_append] at hc
    rcases hc with hsign | hdigit
    · obtain rfl : c = '-' := by
        split at hsign
        · exact List.mem_singleton.mp hsign
        · exact absurd hsign List.not_mem_nil
      decide
    · obtain ⟨k, hk, rfl⟩ := Text.exists_digitChar_of_mem_toDigits (by decide) hdigit
      have hdigits : ∀ k < 10, Text.isBlank (Nat.digitChar k) = false := by decide
      exact hdigits k hk

theorem Route.isWord_of_mem_fields (r : Route) : ∀ field ∈ r.fields, Text.IsWord field := by
  simp only [fields, List.forall_mem_cons]
  exact ⟨r.interface.isWord, isWord_hexDigits (by decide) _, isWord_hexDigits (by decide) _,
    isWord_hexDigits (by decide) _, isWord_toString _, isWord_toString _, isWord_toString _,
    isWord_hexDigits (by decide) _, isWord_toString _, isWord_toString _, isWord_toString _,
    List.forall_mem_nil _⟩

theorem Row.hasWords_route (r : Route) (padding : Nat) :
    Text.HasWords r.fields (route r padding).text := by
  have hgap : ∀ c ∈ List.replicate padding ' ', Text.isBlank c = true := by
    intro c hc
    obtain rfl := List.eq_of_mem_replicate hc
    decide
  exact Text.hasWords_intercalate (by decide) hgap r.isWord_of_mem_fields

theorem Row.unbroken (row : Row) : '\n' ∉ row.text := by
  cases row with
  | short line _ _ => exact line.unbroken
  | route r padding =>
    -- a line feed is a blank, so that it is in no field
    have hfields : ∀ field ∈ r.fields, ∀ c ∈ field, c ≠ '\n' := by
      rintro field hfield c hc rfl
      exact absurd ((r.isWord_of_mem_fields field hfield).notBlank '\n' hc) (by decide)
    have htab : ∀ c ∈ ['\t'], c ≠ '\n' := List.forall_mem_singleton.mpr (by decide)
    intro hmem
    rcases List.mem_append.mp hmem with hmem | hmem
    · exact Text.forall_mem_intercalate htab hfields '\n' hmem rfl
    · exact absurd (List.eq_of_mem_replicate hmem) (by decide)

/-! ## Reading -/

theorem readBelow_address (ip : IPv4) :
    (Text.readBelow 16 UInt32.size (address ip)).map .ofLittleEndian = some ip := by
  have hread : Text.readBelow 16 UInt32.size (address ip) = some ip.littleEndian :=
    Text.readBelow_hexDigits (by decide) ip.littleEndian_lt ip.littleEndian_lt
  rw [hread, Option.map_some, IPv4.ofLittleEndian_littleEndian]

example : address ⟨10, 244, 0, 1⟩ = "0100F40A".toList := by decide

theorem address_injective {ip ip' : IPv4} (h : address ip = address ip') : ip = ip' := by
  have hread := readBelow_address ip
  rw [h, readBelow_address] at hread
  exact (Option.some.inj hread).symm

theorem address_eq_zeros_iff {ip : IPv4} : address ip = "00000000".toList ↔ ip = .unspecified := by
  have hzeros : address .unspecified = "00000000".toList := by decide
  constructor
  · intro h
    exact address_injective (h.trans hzeros.symm)
  · rintro rfl
    exact hzeros

theorem gatewayOfLine_text (row : Row) :
    gatewayOfLine row.text =
      row.route?.bind fun r ↦ if r.destination = .unspecified then some r.gateway else none := by
  cases row with
  | route r padding =>
    rw [gatewayOfLine, (Row.hasWords_route r padding).words_eq, Route.fields]
    simp only [address_eq_zeros_iff, readBelow_address, Row.route?, Option.bind_some]
  | short line h hfew =>
    rw [gatewayOfLine, Row.text, h.words_eq]
    split
    · simp only [List.length_cons] at hfew
      omega
    · rfl

/-- The header counts for nothing, and neither do the lines without a route. -/
theorem defaultGateway_table_eq_findSome? (header : Line) (rows : List Row) :
    defaultGateway (table header rows) = (rows.filterMap Row.route?).findSome? fun r ↦
      if r.destination = .unspecified then some r.gateway else none := by
  have hlines : ∀ line ∈ header.text :: rows.map Row.text, '\n' ∉ line := by
    refine List.forall_mem_cons.mpr ⟨header.unbroken, ?_⟩
    exact List.forall_mem_map.mpr fun row _ ↦ row.unbroken
  rw [defaultGateway, table, String.toList_ofList, Text.lines_flatMap hlines, List.map_cons,
    List.drop_one, List.tail_cons, List.map_map, List.findSome?_map, findSome?_filterMap]
  refine findSome?_congr fun row _ ↦ ?_
  have hdrop : gatewayOfLine (Text.dropReturn row.text) = gatewayOfLine row.text := by
    rw [gatewayOfLine, gatewayOfLine, Text.words_dropReturn]
  exact hdrop.trans (gatewayOfLine_text row)

/-- **The gateway is that of the first route whose destination is zero, whatever its mask.** If
there is no such route, there is no gateway. So if the first of these routes, where there is one, is
a default route, then the gateway is that of the first default route, and where there is no default
route there is no gateway. -/
theorem defaultGateway_table (header : Line) (rows : List Row) :
    let routes := rows.filterMap Row.route?
    defaultGateway (table header rows) =
        (routes.find? (·.destination = .unspecified)).map Route.gateway ∧
      ((∀ r, routes.find? (·.destination = .unspecified) = some r → r.mask = .unspecified) →
        defaultGateway (table header rows) = (routes.find? (·.IsDefault)).map Route.gateway) := by
  intro routes
  have hgateway : defaultGateway (table header rows) =
      (routes.find? (·.destination = .unspecified)).map Route.gateway := by
    rw [defaultGateway_table_eq_findSome?, List.find?_eq_findSome?_guard, List.map_findSome?]
    refine findSome?_congr fun r _ ↦ ?_
    by_cases h : r.destination = .unspecified <;> simp [Option.guard, h]
  refine ⟨hgateway, ?_⟩
  intro hmask
  rw [hgateway]
  congr 1
  apply find?_eq_find?_of_imp
  · intro r hr
    rw [decide_eq_true_eq] at hr ⊢
    exact hr.1
  · intro r hr
    have hdestination := List.find?_some hr
    rw [decide_eq_true_eq] at hdestination ⊢
    exact ⟨hdestination, hmask r hr⟩

/-! ### Routes for half of all addresses -/

/-- The header that the kernel writes. -/
def header : Line where
  text := "Iface\tDestination\tGateway \tFlags\tRefCnt\tUse\tMetric\tMask\t\tMTU\tWindow\tIRTT".toList
  unbroken := by decide

/-- A line without anything in it. -/
def emptyRow : Row := .short ⟨[], List.not_mem_nil⟩ .nil (by decide)

/-- The row of a route over an interface with a name. -/
def routeOver (name : String) (isWord : Text.IsWord name.toList)
    (destination gateway mask : IPv4) : Row :=
  .route {
    interface := ⟨name.toList, isWord⟩
    destination
    gateway
    flags := 3
    references := 0
    uses := 0
    metric := 0
    mask
    mtu := 0
    window := 0
    roundTrip := 0 } 0

/-- The route to the hosts of the same network. -/
def localRow : Row :=
  routeOver "eth0" (by decide) ⟨192, 168, 1, 0⟩ .unspecified ⟨255, 255, 255, 0⟩

/-- The default route. -/
def defaultRow : Row := routeOver "eth0" (by decide) .unspecified ⟨192, 168, 1, 1⟩ .unspecified

/-- A route through a tunnel for the lower half of all addresses. -/
def tunnelRow : Row := routeOver "tun0" (by decide) .unspecified ⟨10, 8, 0, 1⟩ ⟨128, 0, 0, 0⟩

/-- The default route is found behind the route to the own network and an empty line. -/
theorem defaultGateway_table_behind_local :
    (∀ r, ([localRow, emptyRow, defaultRow].filterMap Row.route?).find?
        (·.destination = .unspecified) = some r → r.mask = .unspecified) ∧
      defaultGateway (table header [localRow, emptyRow, defaultRow]) =
        some ⟨192, 168, 1, 1⟩ := by
  have hmask : ∀ r, ([localRow, emptyRow, defaultRow].filterMap Row.route?).find?
      (·.destination = .unspecified) = some r → r.mask = .unspecified := by
    intro r hr
    obtain rfl := Option.some.inj hr
    rfl
  exact ⟨hmask, (defaultGateway_table header [localRow, emptyRow, defaultRow]).2 hmask⟩

/-- A route for half of all addresses is taken for the default route: the gateway is that of the
tunnel, whether there is a default route or not. -/
theorem not_default_of_tunnel :
    (defaultGateway (table header [tunnelRow, defaultRow]) = some ⟨10, 8, 0, 1⟩ ∧
      (([tunnelRow, defaultRow].filterMap Row.route?).find? (·.IsDefault)).map Route.gateway =
        some ⟨192, 168, 1, 1⟩) ∧
    defaultGateway (table header [localRow, tunnelRow]) = some ⟨10, 8, 0, 1⟩ ∧
      (([localRow, tunnelRow].filterMap Row.route?).find? (·.IsDefault)).map Route.gateway =
        none := by
  rw [defaultGateway_table_eq_findSome?, defaultGateway_table_eq_findSome?]
  exact ⟨⟨rfl, rfl⟩, rfl, rfl⟩

end RouteTable

end MeshSurvey
