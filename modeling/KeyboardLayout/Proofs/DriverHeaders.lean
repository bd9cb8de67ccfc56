import KeyboardLayout.Proofs.CommentLines
import KeyboardLayout.Proofs.DriverValues

/-!
# The headers of driver files

The frames of XKB and KLC files begin with comments. A view keeps them, since each of its lines is
led by the start of a comment, as long as no key shows a line feed; a value of the metadata is
inserted as it is, so that its line ends leave the comment (`forall_comment_header_iff`).
-/

namespace KeyboardLayout

open Text Placeholder

namespace Text

/-! ## Marks behind a line feed -/

theorem feed_not_mem_splitMarks {t : Text} (h : '\n' ∉ t) : '\n' ∉ splitMarks t := by
  intro hmem
  obtain ⟨c, hc, hfeed⟩ := List.mem_flatMap.mp hmem
  have hne : '\n' ≠ c := fun heq => h (heq ▸ hc)
  split at hfeed <;> simp [hne] at hfeed

/-- A padded mark is no comment either. -/
theorem not_continued_splitMarks {c : Char} (h : c ∉ ['/', '\n', '\r']) (s t : Text) :
    ¬Continued (splitMarks (s ++ '\n' :: c :: t)) := by
  have hfeed : splitMarks ('\n' :: c :: t) = '\n' :: splitMarks (c :: t) := by
    rw [splitMarks_cons, not_isMark_feed]
    rfl
  rw [splitMarks_append, hfeed, splitMarks_cons]
  split
  · exact not_continued (c := ' ') (by decide) (splitMarks s) (c :: splitMarks t)
  · exact not_continued h (splitMarks s) (splitMarks t)

namespace Placeholder

/-! ## Composed texts that are comments -/

variable {views : List (Text × List Text)} {tokens : List (Text × Text)} {parts : List Part}
  {lines : List Text} {indent line s : Text}

/-- What stands for a line of a frame once the views and the values are put in. -/
def filledLine (views : List (Text × List Text)) (tokens : List (Text × Text)) (line : Text) :
    List Text :=
  (placed? views line).getD [substituteTokens tokens line]

theorem composedAtOnce_eq (lines : List Text) (views : List (Text × List Text))
    (tokens : List (Text × Text)) :
    composedAtOnce lines views tokens = unlines (lines.flatMap (filledLine views tokens)) :=
  rfl

theorem flatMap_filledLine_ne_nil (h : lines ≠ []) :
    lines.flatMap (filledLine views tokens) ≠ [] := by
  obtain ⟨line, rest, rfl⟩ := List.exists_cons_of_ne_nil h
  rw [List.flatMap_cons]
  exact List.append_ne_nil_of_left_ne_nil (getD_placed?_ne_nil views line _) _

theorem composedAtOnce_append {more : List Text} (h : lines ≠ []) (hmore : more ≠ []) :
    composedAtOnce (lines ++ more) views tokens =
      composedAtOnce lines views tokens ++ '\n' :: composedAtOnce more views tokens := by
  simp only [composedAtOnce_eq]
  rw [List.flatMap_append, unlines_append (flatMap_filledLine_ne_nil h)
    (flatMap_filledLine_ne_nil hmore)]

theorem commented_composedAtOnce_iff (h : lines ≠ []) :
    Commented (composedAtOnce lines views tokens) ↔
      ∀ line ∈ lines, ∀ piece ∈ filledLine views tokens line, Commented piece := by
  rw [composedAtOnce_eq, commented_unlines (flatMap_filledLine_ne_nil h), List.forall_mem_flatMap]

theorem filled_text_token {name value : Text} (h : tokens.lookup name = some value) (t : Text)
    (default? : Option Text) (rest : List Part) :
    filled tokens (t.map .char ++ .token name default? :: rest) =
      t ++ (chosen default? value ++ filled tokens rest) := by
  rw [filled_append, filled_map_char, filled_cons, Part.filled_token, h, Option.elim_some]

/-- A line without a view gives way to itself with the values of its tokens. -/
theorem filledLine_textOf (htokens : Named tokens) (hparts : Tokenized parts)
    (hplaced : placed? views (textOf parts) = none) :
    filledLine views tokens (textOf parts) = [filled tokens parts] := by
  rw [filledLine, hplaced, substituteTokens_textOf htokens hparts]
  rfl

/-- Behind the start of a comment the lines of a view stay comments if each of them is
continued. -/
theorem commented_shownLines_iff (hfeed : '\n' ∉ indent) (hlength : 2 ≤ indent.length)
    (hslashes : "//".toList <+: indent) (lines : List Text) :
    (∀ piece ∈ shownLines indent lines, Commented piece) ↔ ∀ line ∈ lines, Continued line := by
  have hnil : Commented [] := by decide
  unfold shownLines
  split
  · rename_i hempty
    rw [List.isEmpty_iff.mp hempty]
    simpa using hnil
  · rw [List.forall_mem_map]
    refine forall₂_congr fun line _ => ?_
    unfold indented
    split
    · rename_i hline
      rw [List.isEmpty_iff.mp hline]
      exact iff_of_true hnil (by decide)
    · rw [commented_append_iff hfeed hlength, and_iff_right hslashes]

/-- The start of a line without a token starts what is composed. -/
theorem prefix_composedAtOnce (h : '$' ∉ s) (hplaced : placed? views (s ++ line) = none)
    (lines : List Text) : s <+: composedAtOnce ((s ++ line) :: lines) views tokens := by
  rw [composedAtOnce_eq, List.flatMap_cons, filledLine, hplaced, Option.getD_none,
    substituteTokens_append h, List.singleton_append]
  exact (List.prefix_append s _).trans (prefix_unlines _ _)

/-- A default without line feeds makes no difference. -/
theorem continued_chosen_append_iff {default : Text} (hdefault : '\n' ∉ default)
    (value behind : Text) :
    Continued (chosen (some default) value ++ behind) ↔ Continued (value ++ behind) := by
  unfold chosen
  split
  · rename_i hempty
    rw [List.isEmpty_iff.mp hempty, Option.getD_some, continued_append_of_not_mem hdefault,
      List.nil_append]
  · rfl

end Placeholder

end Text

/-! ## Line feeds in drawings -/

namespace Drawing

variable {layout : Layout} {board : Geometry} (hboard : board.Drawable)
  (hordinary : Ordinary board.template)
include hboard hordinary

/-- A line of a drawing stays a comment exactly if it has no line feed. -/
theorem continued_splitMarks_iff {pairs : List Pair} {line : Text}
    (hline : line ∈ drawnOver layout board.rows board.template pairs) :
    Continued (splitMarks line) ↔ '\n' ∉ line := by
  refine ⟨fun hcontinued hfeed => ?_, fun hfeed => ?_⟩
  · obtain ⟨s, t, rfl⟩ := List.append_of_mem hfeed
    obtain ⟨c, rest, rfl, hc⟩ := exists_behind_feed hboard hordinary hline
    exact not_continued_splitMarks hc s rest hcontinued
  · exact continued_of_not_mem (feed_not_mem_splitMarks hfeed)

theorem forall_continued_iff {pairs : List Pair}
    (hpairs : pairs.Pairwise fun earlier later => earlier = .base ∧ later ≠ .base) :
    (∀ line ∈ drawnOver layout board.rows board.template pairs, Continued (splitMarks line)) ↔
      ∀ pair ∈ pairs, ∀ key ∈ board.keys,
        layout.symbol key pair.lower ≠ some '\n' ∧ layout.symbol key pair.upper ≠ some '\n' := by
  have hshown : ∀ key level,
      shown layout key level = '\n' ↔ layout.symbol key level = some '\n' := by
    intro key level
    unfold shown
    cases layout.symbol key level with
    | none => exact iff_of_false (by decide) (by simp)
    | some c => simp
  have hlines : (∀ line ∈ drawnOver layout board.rows board.template pairs,
      Continued (splitMarks line)) ↔
        ∀ line ∈ drawnOver layout board.rows board.template pairs, '\n' ∉ line :=
    forall₂_congr fun _ hline => continued_splitMarks_iff hboard hordinary hline
  have hfeed : (∃ line ∈ drawnOver layout board.rows board.template pairs, '\n' ∈ line) ↔ _ :=
    feed_mem_drawnOver_iff hboard hordinary hpairs
  simp only [hshown] at hfeed
  rw [hlines]
  simpa only [not_exists, not_and, not_or] using not_congr hfeed

end Drawing

/-- No value of the metadata leaves the comments of a header: behind a line feed it makes comments
of its own, up to where the frame goes on behind the value. -/
structure Metadata.Continuing (metadata : Metadata) : Prop where
  description : Continued metadata.description
  locale : Continued (metadata.locale ++ ", version ".toList)
  version : Continued (metadata.version ++ ", by ".toList)
  author : Continued metadata.author

namespace Driver

variable {driver : Driver} {layout : Layout} {options : Options} {board : Geometry}

/-! ## The lines of a header -/

/-- The lines of the frame before its first statement. -/
def headerLines (driver : Driver) : List Text :=
  driver.frameLines.takeWhile fun line => Comment line

/-- The lines of the frame from its first statement on. -/
def bodyLines (driver : Driver) : List Text :=
  driver.frameLines.dropWhile fun line => Comment line

/-- What the first statement of the frame starts with. -/
def statement : Driver → Text
  | xkb => "partial alphanumeric_keys modifier_keys".toList
  | klc => "KBD\t".toList
  | keylayout => "<?xml".toList

/-- The line of the description. -/
def descriptionParts : List Part :=
  "// ".toList.map .char ++ [.token "description".toList none]

/-- The line of the locale, the version and the author. -/
def originParts : List Part :=
  "// Locale: ".toList.map .char ++ .token "locale".toList (some "us".toList) ::
    (", version ".toList.map .char ++ .token "version".toList (some "0.0.0".toList) ::
      (", by ".toList.map .char ++ [.token "author".toList (some "unknown".toList)]))

/-- The line that a drawing takes the place of. -/
def drawingLine (name : Text) : Text :=
  "// ".toList ++ marker name

/-- The lines that neither the metadata nor a drawing goes into. -/
def remarkParts (driver : Driver) : List (List Part) :=
  let replaced := textOf descriptionParts :: textOf originParts :: headerNames.map drawingLine
  (driver.headerLines.filter (!replaced.contains ·)).map partsOf

/-- The lines of a header that no drawing takes the place of. -/
def headerParts (driver : Driver) : List (List Part) :=
  descriptionParts :: originParts :: driver.remarkParts

section

variable (hdriver : driver ≠ .keylayout)
include hdriver

theorem headerLines_perm :
    driver.headerLines.Perm (driver.headerParts.map textOf ++ headerNames.map drawingLine) := by
  cases driver with
  | xkb => decide +kernel
  | klc => decide +kernel
  | keylayout => exact absurd rfl hdriver

theorem headerLines_ne_nil : driver.headerLines ≠ [] := by
  intro hnil
  have hperm := headerLines_perm hdriver
  rw [hnil] at hperm
  exact nomatch hperm.nil_eq

/-- Only the lines of the drawings have a marker at their end. -/
theorem headerParts_unmarked : ∀ parts ∈ driver.headerParts, Tokenized parts
    ∧ ∀ name ∈ driver.viewNames, (textOf parts).dropSuffix? (marker name) = none := by
  cases driver with
  | xkb => decide +kernel
  | klc => decide +kernel
  | keylayout => exact absurd rfl hdriver

/-- No token and no marker changes what the first statement starts with. -/
theorem exists_bodyLines_eq : ∃ line rest, driver.bodyLines = (driver.statement ++ line) :: rest
    ∧ '$' ∉ driver.statement
    ∧ ∀ name ∈ driver.viewNames, (driver.statement ++ line).dropSuffix? (marker name) = none := by
  cases driver with
  | xkb => exact ⟨[], _, rfl, by decide, by decide⟩
  | klc =>
      exact ⟨"$\x7bname\x7d\t\"$\x7bdescription\x7d\"".toList, _, rfl, by decide, by decide⟩
  | keylayout => exact absurd rfl hdriver

end

/-! ## Values in a header -/

theorem commented_descriptionParts_iff (driver : Driver) (metadata : Metadata) :
    Commented (filled (driver.ownTokens ++ metadataTokens metadata) descriptionParts) ↔
      Continued metadata.description := by
  have hvalue : (driver.ownTokens ++ metadataTokens metadata).lookup "description".toList =
      some metadata.description := by
    cases driver <;> rfl
  have hkept : chosen none metadata.description = metadata.description := ite_self _
  have hfilled : filled (driver.ownTokens ++ metadataTokens metadata) descriptionParts =
      "// ".toList ++ metadata.description := by
    rw [descriptionParts, filled_text_token hvalue, hkept]
    exact congrArg _ (List.append_nil _)
  rw [hfilled, commented_append_iff (by decide) (by decide)]
  exact and_iff_right (by decide)

theorem commented_originParts_iff (driver : Driver) (metadata : Metadata) :
    Commented (filled (driver.ownTokens ++ metadataTokens metadata) originParts) ↔
      Continued (metadata.locale ++ ", version ".toList)
        ∧ Continued (metadata.version ++ ", by ".toList) ∧ Continued metadata.author := by
  have hvalues : (driver.ownTokens ++ metadataTokens metadata).lookup "locale".toList =
        some metadata.locale
      ∧ (driver.ownTokens ++ metadataTokens metadata).lookup "version".toList =
        some metadata.version
      ∧ (driver.ownTokens ++ metadataTokens metadata).lookup "author".toList =
        some metadata.author := by
    cases driver <;> exact ⟨rfl, rfl, rfl⟩
  obtain ⟨hlocale, hversion, hauthor⟩ := hvalues
  have hfilled : filled (driver.ownTokens ++ metadataTokens metadata) originParts =
      "// Locale: ".toList ++ (chosen (some "us".toList) metadata.locale ++
        (", version ".toList ++ (chosen (some "0.0.0".toList) metadata.version ++
          (", by ".toList ++ (chosen (some "unknown".toList) metadata.author ++ []))))) := by
    -- by terms: rewriting would compare the literals of the frame
    refine (filled_text_token hlocale _ _ _).trans (congrArg _ (congrArg _ ?_))
    refine (filled_text_token hversion _ _ _).trans (congrArg _ (congrArg _ ?_))
    exact filled_text_token hauthor _ _ _
  rw [hfilled, commented_append_iff (by decide) (by decide), and_iff_right (by decide),
    continued_append_iff (by decide) (by decide), continued_append_iff (by decide) (by decide),
    continued_chosen_append_iff (by decide), continued_chosen_append_iff (by decide),
    continued_chosen_append_iff (by decide), List.append_nil]

theorem commented_remarkParts (driver : Driver) (metadata : Metadata) :
    ∀ parts ∈ driver.remarkParts,
      Commented (filled (driver.ownTokens ++ metadataTokens metadata) parts) := by
  have hsame : driver.remarkParts.map (filled (driver.ownTokens ++ metadataTokens metadata)) =
      driver.remarkParts.map (filled (driver.ownTokens ++ metadataTokens {})) := by
    cases driver <;> rfl
  have hcommented : ∀ t ∈ driver.remarkParts.map (filled (driver.ownTokens ++ metadataTokens {})),
      Commented t := by
    cases driver <;> decide +kernel
  rw [← hsame, List.forall_mem_map] at hcommented
  exact hcommented

/-! ## Headers -/

/-- The drawings of a header, with the names of their markers. -/
def drawings (layout : Layout) (board : Geometry) : List (Text × List Text) :=
  [("GEOMETRY_qwerty".toList,
      Drawing.drawnOver layout board.rows board.template [.base, .deadKey]),
    ("GEOMETRY_altgr".toList, Drawing.drawnOver layout board.rows board.template [.altGr])]

/-- The previews of a header are these drawings. -/
theorem previews_eq (h : layout.registry = Registry.builtin)
    (hboard : Registry.builtin.geometry options.previewGeometry = .ok board) :
    Driver.previews layout options = .ok (drawings layout board) := by
  rw [Driver.previews, Layout.drawing_eq h hboard, Layout.drawing_eq h hboard]
  rfl

/-- The drawings keep the comments unless a key of the board shows a line feed. -/
theorem forall_continued_drawings_iff {name : Text}
    (hboard : Registry.builtin.geometry name = .ok board) :
    (∀ view ∈ drawings layout board, ∀ line ∈ view.2, Continued (splitMarks line)) ↔
      ∀ key ∈ board.keys, ∀ level, layout.symbol key level ≠ some '\n' := by
  have hdrawable := (Registry.drawable_of_builtin hboard).1
  have hordinary := Registry.ordinary_of_builtin hboard
  simp only [drawings, List.forall_mem_cons, List.not_mem_nil, false_implies, implies_true,
    and_true]
  rw [Drawing.forall_continued_iff hdrawable hordinary (by decide),
    Drawing.forall_continued_iff hdrawable hordinary (by decide)]
  constructor
  · rintro ⟨hbase, haltGr⟩ key hkey level
    cases level with
    | base => exact (hbase .base (by decide) key hkey).1
    | shift => exact (hbase .base (by decide) key hkey).2
    | deadKey => exact (hbase .deadKey (by decide) key hkey).1
    | deadKeyShift => exact (hbase .deadKey (by decide) key hkey).2
    | altGr => exact (haltGr .altGr (by decide) key hkey).1
    | altGrShift => exact (haltGr .altGr (by decide) key hkey).2
  · intro h
    exact ⟨fun pair _ key hkey => ⟨h key hkey pair.lower, h key hkey pair.upper⟩,
      fun pair _ key hkey => ⟨h key hkey pair.lower, h key hkey pair.upper⟩⟩

/-- A line of the header holds tokens at most, or it gives way to a drawing. -/
theorem forall_headerLines_iff (hdriver : driver ≠ .keylayout) (layout : Layout) (board : Geometry)
    {p : Text → Prop} :
    (∀ line ∈ driver.headerLines, p line) ↔
      (∀ parts ∈ driver.headerParts, p (textOf parts))
        ∧ ∀ view ∈ drawings layout board, p (drawingLine view.1) := by
  have hdrawings : headerNames = (drawings layout board).map Prod.fst := rfl
  simp only [(headerLines_perm hdriver).mem_iff, List.forall_mem_append, hdrawings,
    List.forall_mem_map]

/-- The drawings go into the lines with their markers, each line behind the start of a comment. -/
theorem placed?_drawings (layout : Layout) (board : Geometry) (views : List (Text × List Text)) :
    ∀ view ∈ drawings layout board,
      placed? ((drawings layout board ++ views).map padded) (drawingLine view.1) =
        some (shownLines "// ".toList (view.2.map splitMarks)) := by
  simp only [drawings, List.forall_mem_cons, List.not_mem_nil, false_implies, implies_true,
    and_true]
  exact ⟨rfl, rfl⟩

/-- What precedes the first statement of a driver file. -/
def header (driver : Driver) (layout : Layout) (options : Options)
    (previews : List (Text × List Text)) : Text :=
  composedAtOnce driver.headerLines ((previews ++ driver.views layout options).map padded)
    (driver.ownTokens ++ metadataTokens layout.metadata) ++ ['\n']

/-- The header is made of comments exactly if neither the metadata nor a key of the board leaves
them. -/
theorem commented_header_iff
    (hboard : Registry.builtin.geometry options.previewGeometry = .ok board)
    (hdriver : driver ≠ .keylayout) :
    (∀ line ∈ lines (driver.header layout options (drawings layout board)), Comment line) ↔
      layout.metadata.Continuing
        ∧ ∀ key ∈ board.keys, ∀ level, layout.symbol key level ≠ some '\n' := by
  generalize htokens : driver.ownTokens ++ metadataTokens layout.metadata = tokens
  generalize hviews : (drawings layout board ++ driver.views layout options).map padded = views
  have hnames : views.map Prod.fst = driver.viewNames :=
    hviews ▸ map_fst_map_padded (map_fst_views driver rfl)
  have hnamed : Named tokens := htokens ▸ named_tokens driver layout.metadata
  have hparts : ∀ parts ∈ driver.headerParts,
      (∀ piece ∈ filledLine views tokens (textOf parts), Commented piece) ↔
        Commented (filled tokens parts) := by
    intro parts hmem
    obtain ⟨htokenized, hunmarked⟩ := headerParts_unmarked hdriver parts hmem
    rw [filledLine_textOf hnamed htokenized (placed?_eq_none (hnames ▸ hunmarked)),
      List.forall_mem_singleton]
  have hdrawn : ∀ view ∈ drawings layout board,
      (∀ piece ∈ filledLine views tokens (drawingLine view.1), Commented piece) ↔
        ∀ line ∈ view.2, Continued (splitMarks line) := by
    intro view hview
    rw [filledLine, ← hviews, placed?_drawings layout board _ view hview, Option.getD_some,
      commented_shownLines_iff (by decide) (by decide) (by decide), List.forall_mem_map]
  rw [header, htokens, hviews, forall_comment_lines_iff,
    commented_composedAtOnce_iff (headerLines_ne_nil hdriver),
    forall_headerLines_iff hdriver layout board, forall₂_congr hparts, forall₂_congr hdrawn,
    forall_continued_drawings_iff hboard, headerParts, List.forall_mem_cons, List.forall_mem_cons,
    ← htokens, commented_descriptionParts_iff, commented_originParts_iff]
  refine and_congr_left fun _ => ⟨?_, fun h => ?_⟩
  · rintro ⟨hdescription, ⟨hlocale, hversion, hauthor⟩, -⟩
    exact ⟨hdescription, hlocale, hversion, hauthor⟩
  · exact ⟨h.description, ⟨h.locale, h.version, h.author⟩, commented_remarkParts _ _⟩

/-- A driver file is its header and what follows from the first statement on. -/
theorem render_eq_header_append (h : layout.Equipped)
    (hboard : Registry.builtin.geometry options.previewGeometry = .ok board)
    (hdriver : driver ≠ .keylayout)
    (hinserted : Inserted driver.shownTokens
      (driver.ownTokens ++ metadataTokens layout.metadata)) :
    ∃ text body, driver.render layout options = .ok text
      ∧ text = driver.header layout options (drawings layout board) ++ body
      ∧ driver.statement <+: body := by
  obtain ⟨previews, hpreviews, hnames, hloose⟩ := exists_previews h.registry_eq hboard
  obtain rfl := Except.ok.inj ((previews_eq h.registry_eq hboard).symm.trans hpreviews)
  obtain ⟨hframed, hfeed, hviews⟩ := fits_frame h.legible driver options hnames hloose
  have hsome := mem_tokenNames driver layout.metadata
  obtain ⟨hpass, hcomposed⟩ := insertTokens_insertViews_at_once (frameLines_ne_nil driver)
    (fun line hline => ⟨hframed line hline, (settled_frame driver line hline).mono hsome⟩) hfeed
    hviews (named_tokens driver layout.metadata)
    (fun name hname => feed_continues_no_token name (hsome name hname)) hinserted
  obtain ⟨line, rest, hbody, hdollar, hunmarked⟩ := exists_bodyLines_eq hdriver
  have hframe : driver.frameLines = driver.headerLines ++ (driver.statement ++ line) :: rest := by
    rw [← hbody, headerLines, bodyLines, List.takeWhile_append_dropWhile]
  have hplaced : placed? ((drawings layout board ++ driver.views layout options).map padded)
      (driver.statement ++ line) = none :=
    placed?_eq_none (map_fst_map_padded (map_fst_views driver hnames) ▸ hunmarked)
  have hstatement : driver.statement <+: composedAtOnce ((driver.statement ++ line) :: rest)
      ((drawings layout board ++ driver.views layout options).map padded)
      (driver.ownTokens ++ metadataTokens layout.metadata) :=
    prefix_composedAtOnce hdollar hplaced rest
  refine ⟨_, _, render_of_previews hpreviews driver, ?_, hstatement⟩
  rw [frame_eq, hpass, hcomposed, hframe, composedAtOnce_append (headerLines_ne_nil hdriver)
    (List.cons_ne_nil _ _), header, List.append_assoc, List.singleton_append]

/-- **Headers stay comments** as long as the values and the drawings do: each line before the first
statement of an XKB or KLC file is empty or a comment exactly if no value of the metadata leaves the
comment that it stands in, and no key of the preview board has a line feed for a symbol. -/
theorem forall_comment_header_iff (h : layout.Equipped)
    (hboard : Registry.builtin.geometry options.previewGeometry = .ok board)
    (hdriver : driver ≠ .keylayout)
    (hinserted : Inserted driver.shownTokens
      (driver.ownTokens ++ metadataTokens layout.metadata)) :
    ∃ previews text body, Driver.previews layout options = .ok previews
      ∧ driver.render layout options = .ok text
      ∧ text = driver.header layout options previews ++ body
      ∧ driver.statement <+: body
      ∧ ((∀ line ∈ lines (driver.header layout options previews), Comment line) ↔
        layout.metadata.Continuing
          ∧ ∀ key ∈ board.keys, ∀ level, layout.symbol key level ≠ some '\n') := by
  obtain ⟨text, body, hrender, htext, hbody⟩ :=
    render_eq_header_append h hboard hdriver hinserted
  exact ⟨drawings layout board, text, body, previews_eq h.registry_eq hboard, hrender, htext, hbody,
    commented_header_iff hboard hdriver⟩

/-- A description of two lines keeps the header if the second one is a comment itself. -/
theorem forall_comment_header_remark :
    ∃ layout previews text body,
      Layout.new { description := "Mini layout\r\n// for two hands\n".toList } "ISO".toList
        Registry.builtin = .ok layout
      ∧ Driver.previews layout {} = .ok previews
      ∧ render .klc layout {} = .ok text
      ∧ text = header .klc layout {} previews ++ body
      ∧ statement .klc <+: body
      ∧ ∀ line ∈ lines (header .klc layout {} previews), Comment line := by
  let metadata : Metadata := { description := "Mini layout\r\n// for two hands\n".toList }
  obtain ⟨layout, hlayout, hmetadata, hsymbol⟩ : ∃ layout,
      Layout.new metadata "ISO".toList Registry.builtin = .ok layout
        ∧ layout.metadata = metadata ∧ ∀ key level, layout.symbol key level = none :=
    ⟨_, rfl, rfl, Layout.symbol_empty⟩
  have hinserted : Inserted (shownTokens .klc)
      (ownTokens .klc ++ metadataTokens layout.metadata) := by
    rw [hmetadata]
    decide
  have hcontinuing : layout.metadata.Continuing := by
    rw [hmetadata]
    exact ⟨by decide, by decide, by decide, by decide⟩
  obtain ⟨previews, text, body, hpreviews, hrender, htext, hbody, hiff⟩ :=
    forall_comment_header_iff (Layout.Reached.new hlayout).equipped geometry_preview
      (by decide : klc ≠ keylayout) hinserted
  refine ⟨layout, previews, text, body, hlayout, hpreviews, hrender, htext, hbody,
    hiff.mpr ⟨hcontinuing, fun key _ level => ?_⟩⟩
  rw [hsymbol]
  exact Option.some_ne_none '\n' |>.symm

/-- The second line of a description is not written as a comment. -/
theorem not_forall_comment_header :
    ∃ layout previews text body,
      Layout.new { description := "Mini layout\nfor two hands\n".toList } "ISO".toList
        Registry.builtin = .ok layout
      ∧ Driver.previews layout {} = .ok previews
      ∧ render .xkb layout {} = .ok text
      ∧ text = header .xkb layout {} previews ++ body
      ∧ statement .xkb <+: body
      ∧ ¬∀ line ∈ lines (header .xkb layout {} previews), Comment line := by
  let metadata : Metadata := { description := "Mini layout\nfor two hands\n".toList }
  obtain ⟨layout, hlayout, hmetadata⟩ : ∃ layout,
      Layout.new metadata "ISO".toList Registry.builtin = .ok layout
        ∧ layout.metadata = metadata := ⟨_, rfl, rfl⟩
  have hinserted : Inserted (shownTokens .xkb)
      (ownTokens .xkb ++ metadataTokens layout.metadata) := by
    rw [hmetadata]
    decide
  have hequipped := (Layout.Reached.new hlayout).equipped
  obtain ⟨text, body, hrender, htext, hbody⟩ :=
    render_eq_header_append hequipped geometry_preview (by decide : xkb ≠ keylayout) hinserted
  have hpreviews := previews_eq hequipped.registry_eq geometry_preview
  refine ⟨layout, _, text, body, hlayout, hpreviews, hrender, htext, hbody, fun hcomments => ?_⟩
  have hcontinuing :=
    ((commented_header_iff geometry_preview (by decide)).mp hcomments).1.description
  rw [hmetadata] at hcontinuing
  exact absurd hcontinuing (by decide)

end Driver

end KeyboardLayout
