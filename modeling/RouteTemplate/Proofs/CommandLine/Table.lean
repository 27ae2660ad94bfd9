import RouteTemplate.Proofs.CommandLine.Status
import RouteTemplate.Proofs.Session.Registries
import RouteTemplate.Proofs.Text.Words

/-! # Reading the table of templates

The line of a template is read back word by word, since no character of a valid pattern is a blank or
a newline. The columns begin at the same offsets in each line and in the header: those for keys and
patterns are as wide as their longest entry, and a registry has at most five templates, so that a
priority fits the eight characters of its column. A table tells which registry it was made of
(`Request.report_table`). -/
namespace RouteTemplate

/-- The entry stands in the line at the offset: a blank comes before it, and a blank or the end of the
line after it. -/
def Text.StandsAt (offset : Nat) (entry line : Text) : Prop :=
  ∃ before after, line = before ++ ' ' :: (entry ++ after) ∧ before.length + 1 = offset ∧
    ∀ c ∈ after.head?, c = ' '

theorem Key.isWord_word (key : Key) : key.word.IsWord := by
  cases key <;> exact ⟨by decide, by decide, by decide⟩

theorem Key.word_injective : Function.Injective Key.word := by
  intro first second same
  have named := congrArg Key.ofText? same
  rw [Key.ofText?_word, Key.ofText?_word] at named
  exact Option.some.inj named

/-- The template that a route was made of. -/
def Route.template (route : Route) : Template := ⟨route.key, route.pattern⟩

namespace CommandLine

/-- The offsets at which the columns after the first one begin. -/
structure Columns where
  key : Nat
  pattern : Nat
  names : Nat

/-- The line has the entries of the row in the columns. -/
structure Columns.Hold (columns : Columns) (row : Row) (line : Text) : Prop where
  key : Text.StandsAt columns.key row.key line
  pattern : Text.StandsAt columns.pattern row.pattern line
  names : Text.StandsAt columns.names row.names line

/-- The lines of a table, and its columns. -/
structure Table where
  header : Text
  rule : Text
  rows : List Text
  columns : Columns

/-- The line of a route: its words, and what stands in its columns. -/
structure Columns.Present (columns : Columns) (priority : Nat) (route : Route) (line : Text) :
    Prop where
  worded : Text.words line = Text.ofNat priority :: route.key.word :: route.pattern ::
    Text.enumerated (Pattern.placeholderNames route.pattern)
  held : columns.Hold
    ⟨Text.ofNat priority, route.key.word, route.pattern,
      List.intercalate ", ".toList (Pattern.placeholderNames route.pattern)⟩ line

def Table.lines (table : Table) : List Text := table.header :: table.rule :: table.rows

/-- The table has a header, a rule, and one line for each of the given routes, in their order. The
header and the lines of the routes have the same columns. -/
structure Table.Lists (table : Table) (routes : List Route) : Prop where
  titled : Text.words table.header =
    ["PRIORITY".toList, "KEY".toList, "PATTERN".toList, "VARIABLES".toList]
  headed : table.columns.Hold Row.header table.header
  ruled : table.rule ≠ [] ∧ ∀ c ∈ table.rule, c = '-'
  counted : table.rows.length = routes.length
  presented : ∀ i route, routes[i]? = some route →
    ∃ line, table.rows[i]? = some line ∧ table.columns.Present (i + 1) route line

/-! ## Widths of columns -/

section

variable {least : Nat} {text : Text} {texts : List Text}

theorem le_widest (least : Nat) (texts : List Text) : least ≤ widest least texts := by
  unfold widest
  induction texts generalizing least with
  | nil => exact Nat.le_refl least
  | cons text texts ih => exact Nat.le_trans (Nat.le_max_left _ _) (ih (max least text.length))

theorem length_le_widest (member : text ∈ texts) : text.length ≤ widest least texts := by
  induction texts generalizing least with
  | nil => cases member
  | cons first texts ih =>
      rcases List.mem_cons.mp member with rfl | member
      · exact Nat.le_trans (Nat.le_max_right least _) (le_widest _ texts)
      · exact ih member

end

/-! ## One line -/

section

variable {keyWidth patternWidth offset : Nat} {entry line : Text} {row : Row}

theorem standsAt_padded (entry rest : Text) (width : Nat) :
    Text.StandsAt 2 entry (' ' :: ' ' :: (Text.padRight width entry ++ ' ' :: rest)) := by
  refine ⟨[' '], List.replicate (width - entry.length) ' ' ++ ' ' :: rest, ?_, rfl, ?_⟩
  · rw [Text.padRight, List.append_assoc]
    rfl
  · cases width - entry.length <;> simp [List.replicate_succ]

theorem standsAt_last (entry : Text) : Text.StandsAt 2 entry (' ' :: ' ' :: entry) :=
  ⟨[' '], [], by rw [List.append_nil]; rfl, rfl, nofun⟩

theorem standsAt_append {shifted : Nat} (stands : Text.StandsAt offset entry line) (lead : Text)
    (counted : lead.length + offset = shifted) : Text.StandsAt shifted entry (lead ++ line) := by
  obtain ⟨before, after, rfl, rfl, closed⟩ := stands
  refine ⟨lead ++ before, after, (List.append_assoc _ _ _).symm, ?_, closed⟩
  rw [List.length_append, Nat.add_assoc, counted]

namespace Row

/-- The entries of the first three columns fit their widths. -/
structure Fits (keyWidth patternWidth : Nat) (row : Row) : Prop where
  priority : row.priority.length ≤ 8
  key : row.key.length ≤ keyWidth
  pattern : row.pattern.length ≤ patternWidth

/-- The columns of the rows that fit the widths. -/
def columns (keyWidth patternWidth : Nat) : Columns where
  key := 8 + 2
  pattern := 8 + (2 + keyWidth + 2)
  names := 8 + (2 + keyWidth + (2 + patternWidth + 2))

theorem text_eq (row : Row) :
    row.text keyWidth patternWidth =
      Text.padRight 8 row.priority ++ (' ' :: ' ' :: Text.padRight keyWidth row.key) ++
        (' ' :: ' ' :: Text.padRight patternWidth row.pattern) ++ (' ' :: ' ' :: row.names) := by
  simp [text]

theorem Fits.hold (fits : row.Fits keyWidth patternWidth) :
    (columns keyWidth patternWidth).Hold row (row.text keyWidth patternWidth) := by
  have first : (Text.padRight 8 row.priority).length = 8 := by
    rw [Text.length_padRight, Nat.max_eq_right fits.priority]
  have second : (' ' :: ' ' :: Text.padRight keyWidth row.key).length = 2 + keyWidth := by
    rw [List.length_cons, List.length_cons, Text.length_padRight, Nat.max_eq_right fits.key]
    omega
  have third : (' ' :: ' ' :: Text.padRight patternWidth row.pattern).length = 2 + patternWidth := by
    rw [List.length_cons, List.length_cons, Text.length_padRight, Nat.max_eq_right fits.pattern]
    omega
  -- A column begins two blanks after the cells before it, and each of these is as long as its width.
  rw [text_eq, List.append_assoc, List.append_assoc]
  constructor
  · exact standsAt_append (standsAt_padded row.key _ keyWidth) _ (by rw [first]; rfl)
  · refine standsAt_append (standsAt_append (standsAt_padded row.pattern _ patternWidth) _ rfl) _ ?_
    rw [first, second]
    rfl
  · refine standsAt_append
      (standsAt_append (standsAt_append (standsAt_last row.names) _ rfl) _ rfl) _ ?_
    rw [first, second, third]
    rfl

theorem words_text (row : Row) :
    Text.words (row.text keyWidth patternWidth) =
      Text.words row.priority ++ Text.words row.key ++ Text.words row.pattern ++
        Text.words row.names := by
  simp only [text_eq, Text.words_append_gap, Text.words_padRight]

theorem newline_not_mem_text (priority : '\n' ∉ row.priority) (key : '\n' ∉ row.key)
    (pattern : '\n' ∉ row.pattern) (names : '\n' ∉ row.names) :
    '\n' ∉ row.text keyWidth patternWidth := by
  have gap : '\n' ∉ "  ".toList := by decide
  have first := Text.newline_not_mem_between (Text.newline_not_mem_padRight priority 8) gap
    (Text.newline_not_mem_padRight key keyWidth)
  have second := Text.newline_not_mem_between first gap
    (Text.newline_not_mem_padRight pattern patternWidth)
  exact Text.newline_not_mem_between second gap names

end Row

end

/-! ## Routes that can be listed -/

/-- A route whose pattern and names are words, the names being those of the pattern. -/
structure Listable (route : Route) : Prop where
  pattern : route.pattern.IsWord
  named : route.names = Pattern.placeholderNames route.pattern
  names : ∀ name ∈ route.names, name.IsWord

section

variable {definitions : List (Option Text)} {registry : Registry} {route : Route} {pattern : Text}

theorem not_mem_of_valid {c : Char} (foreign : Alphabet.isPatternCharacter ['/'] c = false)
    (valid : Pattern.violation? ['/'] pattern = none) : c ∉ pattern := by
  intro member
  rw [Pattern.isPatternCharacter_of_valid valid member] at foreign
  cases foreign

theorem isWord_of_block {part : Text} (valid : Pattern.violation? ['/'] pattern = none)
    (filled : part ≠ []) (stands : part <:+: pattern) : part.IsWord where
  filled := filled
  unparted member := not_mem_of_valid (by decide) valid (stands.subset member)
  unbroken member := not_mem_of_valid (by decide) valid (stands.subset member)

theorem listable_of_registryOf (built : registryOf definitions = .ok registry)
    (member : route ∈ registry.routes) : Listable route := by
  have well := wellBuilt_of_registryOf built
  have valid := well.valid route member
  rw [settings_of_registryOf built] at valid
  have named := well.proper.named route member
  refine ⟨isWord_of_block valid ?_ List.infix_rfl, named, fun name among => ?_⟩
  · intro empty
    rw [empty] at valid
    cases valid
  · rw [named] at among
    obtain ⟨before, after, stands⟩ := Pattern.infix_of_mem_placeholderNames among
    refine isWord_of_block valid (Pattern.named_of_mem_placeholderNames valid among).1 ?_
    exact ⟨before ++ ['{'], '}' :: after, by rw [← stands]; simp [Piece.text]⟩

end

/-! ## The table of a row of routes -/

namespace Table

variable {routes : List Route} {route : Route} {i : Nat}

def rowsOf (routes : List Route) : List Row :=
  (routes.zipIdx 1).map (fun (route, priority) => Row.ofRoute route priority)

def keyWidth (routes : List Route) : Nat := widest 3 ((rowsOf routes).map Row.key)

def patternWidth (routes : List Route) : Nat := widest 7 ((rowsOf routes).map Row.pattern)

def ruleWidth (routes : List Route) : Nat :=
  min (8 + keyWidth routes + patternWidth routes + 6 + widest 0 ((rowsOf routes).map Row.names)) 80

def ofRoutes (routes : List Route) : Table where
  header := Row.header.text (keyWidth routes) (patternWidth routes)
  rule := List.replicate (ruleWidth routes) '-'
  rows := (rowsOf routes).map (Row.text (keyWidth routes) (patternWidth routes))
  columns := Row.columns (keyWidth routes) (patternWidth routes)

theorem templateTable_eq (routes : List Route) :
    templateTable routes = (ofRoutes routes).lines.flatMap line := by
  rw [lines, List.flatMap_cons, List.flatMap_cons, ofRoutes, List.flatMap_map, ← List.append_assoc]
  rfl

theorem getElem?_rowsOf (found : routes[i]? = some route) :
    (rowsOf routes)[i]? = some (Row.ofRoute route (i + 1)) := by
  rw [rowsOf, List.getElem?_map, List.getElem?_zipIdx, found, Nat.add_comm]
  rfl

theorem fits_header (routes : List Route) :
    Row.header.Fits (keyWidth routes) (patternWidth routes) :=
  ⟨by decide, le_widest 3 _, le_widest 7 _⟩

/-- If the last priority fits its column, so do all others. -/
theorem fits_ofRoute (few : (Text.ofNat routes.length).length ≤ 8) (found : routes[i]? = some route) :
    (Row.ofRoute route (i + 1)).Fits (keyWidth routes) (patternWidth routes) where
  priority := by
    obtain ⟨inside, -⟩ := List.getElem?_eq_some_iff.mp found
    have last := (Nat.length_toDigits_le_iff (by decide) (by decide)).mp few
    exact (Nat.length_toDigits_le_iff (by decide) (by decide)).mpr (Nat.lt_of_le_of_lt inside last)
  key := length_le_widest (List.mem_map_of_mem (List.mem_of_getElem? (getElem?_rowsOf found)))
  pattern := length_le_widest (List.mem_map_of_mem (List.mem_of_getElem? (getElem?_rowsOf found)))

theorem ofRoute_of_listable (listable : Listable route) (priority : Nat) :
    Row.ofRoute route priority =
      ⟨Text.ofNat priority, route.key.word, route.pattern,
        List.intercalate ", ".toList (Pattern.placeholderNames route.pattern)⟩ := by
  rw [Row.ofRoute, listable.named]

theorem present_ofRoute (few : (Text.ofNat routes.length).length ≤ 8) (listable : Listable route)
    (found : routes[i]? = some route) :
    (ofRoutes routes).columns.Present (i + 1) route
      ((Row.ofRoute route (i + 1)).text (keyWidth routes) (patternWidth routes)) where
  worded := by
    rw [Row.words_text, Row.ofRoute, (Text.isWord_ofNat _).words, route.key.isWord_word.words,
      listable.pattern.words, Text.words_intercalate listable.names, listable.named]
    rfl
  held := by
    have held := (fits_ofRoute few found).hold
    rw [ofRoute_of_listable listable] at held ⊢
    exact held

theorem unbroken_ofRoute (listable : Listable route) (priority : Nat) :
    '\n' ∉ (Row.ofRoute route priority).text (keyWidth routes) (patternWidth routes) :=
  Row.newline_not_mem_text (Text.newline_not_mem_ofNat priority) route.key.isWord_word.unbroken
    listable.pattern.unbroken (Text.newline_not_mem_intercalate listable.names)

theorem lists_ofRoutes (few : (Text.ofNat routes.length).length ≤ 8)
    (listable : ∀ route ∈ routes, Listable route) :
    (ofRoutes routes).Lists routes where
  titled := by
    rw [ofRoutes, Row.words_text]
    rfl
  headed := (fits_header routes).hold
  ruled := by
    have long : 0 < ruleWidth routes := by
      unfold ruleWidth
      omega
    refine ⟨?_, fun c member => List.eq_of_mem_replicate member⟩
    exact List.ne_nil_of_length_pos (by rwa [ofRoutes, List.length_replicate])
  counted := by
    rw [ofRoutes, List.length_map, rowsOf, List.length_map, List.length_zipIdx]
  presented i route found := by
    have fits := present_ofRoute few (listable route (List.mem_of_getElem? found)) found
    refine ⟨_, ?_, fits⟩
    rw [ofRoutes, List.getElem?_map, getElem?_rowsOf found]
    rfl

theorem unbroken_lines (listable : ∀ route ∈ routes, Listable route) :
    ∀ text ∈ (ofRoutes routes).lines, '\n' ∉ text := by
  rw [lines, List.forall_mem_cons, List.forall_mem_cons]
  refine ⟨?_, ?_, fun text member => ?_⟩
  · exact Row.newline_not_mem_text (by decide) (by decide) (by decide) (by decide)
  · exact fun member => absurd (List.eq_of_mem_replicate member) (by decide)
  · obtain ⟨row, among, rfl⟩ := List.mem_map.mp member
    obtain ⟨⟨route, priority⟩, numbered, rfl⟩ := List.mem_map.mp among
    exact unbroken_ofRoute (listable route (List.fst_mem_of_mem_zipIdx numbered)) priority

theorem lines_flatMap_line {texts : List Text} (unbroken : ∀ text ∈ texts, '\n' ∉ text) :
    Text.lines (texts.flatMap line) = texts := by
  induction texts with
  | nil => rfl
  | cons text texts ih =>
      obtain ⟨here, others⟩ := List.forall_mem_cons.mp unbroken
      rw [List.flatMap_cons, line, List.append_assoc, List.singleton_append,
        Text.lines_append_newline here, ih others]

/-- The same lines list the same templates. -/
theorem Lists.templates_eq {table other : Table} {others : List Route} (lists : table.Lists routes)
    (lists' : other.Lists others) (same : table.rows = other.rows) :
    routes.map Route.template = others.map Route.template := by
  have counted : routes.length = others.length := by
    rw [← lists.counted, ← lists'.counted, same]
  have mapped : (routes.map Route.template).length = (others.map Route.template).length := by
    rw [List.length_map, List.length_map, counted]
  refine List.ext_getElem mapped fun i inside inside' => ?_
  rw [List.length_map] at inside inside'
  rw [List.getElem_map, List.getElem_map]
  obtain ⟨text, stands, shown⟩ := lists.presented i _ (List.getElem?_eq_getElem inside)
  obtain ⟨text', stands', shown'⟩ := lists'.presented i _ (List.getElem?_eq_getElem inside')
  rw [same, stands'] at stands
  obtain rfl := Option.some.inj stands
  -- The second and the third word of the line are the word of the key and the pattern.
  obtain ⟨-, rest⟩ := List.cons.inj (shown.worded.symm.trans shown'.worded)
  obtain ⟨key, rest⟩ := List.cons.inj rest
  obtain ⟨pattern, -⟩ := List.cons.inj rest
  rw [Route.template, Route.template, Key.word_injective key, pattern]

end Table

/-! ## The table of a registry -/

section

variable {definitions others : List (Option Text)} {registry other : Registry}

theorem routes_eq_map_template (well : registry.WellBuilt) :
    registry.routes = (registry.routes.map Route.template).map Route.ofTemplate := by
  rw [List.map_map]
  refine (List.map_id _).symm.trans (List.map_congr_left fun route member => ?_)
  exact well.routed route member

theorem eq_of_templates (built : registryOf definitions = .ok registry)
    (built' : registryOf others = .ok other)
    (same : registry.routes.map Route.template = other.routes.map Route.template) :
    registry = other := by
  have settings := (settings_of_registryOf built).trans (settings_of_registryOf built').symm
  have routes : registry.routes = other.routes := by
    rw [routes_eq_map_template (wellBuilt_of_registryOf built), same,
      ← routes_eq_map_template (wellBuilt_of_registryOf built')]
  cases registry
  cases other
  cases settings
  cases routes
  rfl

theorem lists_of_registryOf (built : registryOf definitions = .ok registry) :
    (Table.ofRoutes registry.routes).Lists registry.routes := by
  have bounded := (wellBuilt_of_registryOf built).proper.bounded
  have few : (Text.ofNat registry.routes.length).length ≤ 8 :=
    (Nat.length_toDigits_le_iff (by decide) (by decide)).mpr (by omega)
  exact Table.lists_ofRoutes few fun route member => listable_of_registryOf built member

theorem lines_of_registryOf (built : registryOf definitions = .ok registry) :
    Text.lines ((Table.ofRoutes registry.routes).lines.flatMap line) =
      (Table.ofRoutes registry.routes).lines := by
  apply Table.lines_flatMap_line
  exact Table.unbroken_lines fun route member => listable_of_registryOf built member

theorem report_eq_table (built : registryOf definitions = .ok registry) :
    Request.report ⟨definitions, .table⟩ =
      .ok (.success ((Table.ofRoutes registry.routes).lines.flatMap line)) := by
  rw [← Table.templateTable_eq]
  exact Request.report_of_registryOf built

/-- The rows of a table that is printed and read back are those of the registry. -/
theorem rows_eq (built : registryOf definitions = .ok registry) {table : Table}
    (lines : Text.lines (table.lines.flatMap line) = table.lines)
    (printed : Request.report ⟨definitions, .table⟩ =
      .ok (.success (table.lines.flatMap line))) :
    table.rows = (Table.ofRoutes registry.routes).rows := by
  rw [report_eq_table built] at printed
  have output := congrArg Report.output (Except.ok.inj printed)
  have read : table.lines = (Table.ofRoutes registry.routes).lines := by
    rw [← lines, ← lines_of_registryOf built]
    exact congrArg Text.lines output.symm
  obtain ⟨-, rest⟩ := List.cons.inj read
  exact (List.cons.inj rest).2

end

/-- The table of a registry is a header, a rule and one line for each template in the order of the
registry. The words of a line are the priority, the key, the pattern and the placeholder names, the
columns begin at the same offsets everywhere, and no other registry has the same table. -/
theorem Request.report_table {definitions : List (Option Text)} {registry : Registry}
    (built : registryOf definitions = .ok registry) :
    ∃ table : Table, table.Lists registry.routes ∧
      Request.report ⟨definitions, .table⟩ = .ok (.success (table.lines.flatMap line)) ∧
      Text.lines (table.lines.flatMap line) = table.lines ∧
      ∀ others other, registryOf others = .ok other →
        Request.report ⟨others, .table⟩ = Request.report ⟨definitions, .table⟩ →
        other = registry := by
  have lines := lines_of_registryOf built
  refine ⟨.ofRoutes registry.routes, lists_of_registryOf built, report_eq_table built, lines,
    fun others other built' printed => ?_⟩
  rw [report_eq_table built] at printed
  have lists := lists_of_registryOf built
  have lists' := lists_of_registryOf built'
  exact eq_of_templates built' built (lists'.templates_eq lists (rows_eq built' lines printed).symm)

/-- A pattern without placeholders before one whose names hold an equals sign and a separator. -/
theorem Request.report_table_marked :
    let definitions := [some "NEW=/n".toList, some "show=/\x7ba=b\x7d:\x7bc/d\x7d".toList]
    ∃ registry, ∃ table : Table, registryOf definitions = .ok registry ∧
      table.Lists registry.routes ∧
      Request.report ⟨definitions, .table⟩ = .ok (.success (table.lines.flatMap line)) ∧
      table.rows = ["1         new   /n            ".toList,
        "2         show  /\x7ba=b\x7d:\x7bc/d\x7d  a=b, c/d".toList] := by
  intro definitions
  let shown : Route := Route.ofTemplate ⟨.view, "/\x7ba=b\x7d:\x7bc/d\x7d".toList⟩
  let registry : Registry := ⟨Settings.standard, [Route.ofTemplate ⟨.new, "/n".toList⟩, shown]⟩
  have built : registryOf definitions = .ok registry := by rfl
  obtain ⟨table, lists, printed, lines, -⟩ := report_table built
  refine ⟨registry, table, built, lists, printed, ?_⟩
  rw [rows_eq built lines printed]
  rfl

end CommandLine

end RouteTemplate
