import RpcBindings.Binding.Module
import RpcBindings.Proofs.Binding.Literal
import RpcBindings.Proofs.Code.Layout
import RpcBindings.Proofs.Name.Plain

/-!
# Names cannot inject code (SPEC §4.3)

The names of services, procedures and parameters are arbitrary byte strings.  In the module of a
service they stand in two ways: as identifiers, which hold no delimiter, and as string literals, which
hold nothing but the name.  So the literals of the module are those of its calls, and its brackets
nest, as long as the names that are pasted as they are consist of letters, digits and underscores and
the paths of the setup are paths.
-/

set_option autoImplicit false

namespace RpcBindings

/-! ## Names that are pasted as they are -/

namespace ServiceType

mutual

/-- The names of the classes that a type refers to. -/
def classNames : ServiceType → List Bytes
  | .tuple elements => classNamesAll elements
  | .list element => classNames element
  | .reference _ name => [name]
  | _ => []

/-- The names of the classes that some types refer to. -/
def classNamesAll : List ServiceType → List Bytes
  | [] => []
  | t :: ts => classNames t ++ classNamesAll ts

end

end ServiceType

/-- The names of a service that its module holds as they are spelled: those of its classes,
enumerations and values, and of the classes that its procedures refer to. -/
def Service.pastedNames (s : Service) : List Bytes :=
  s.classes ++ s.enumerations.flatMap (fun e => e.name :: e.values) ++
    s.procedures.flatMap fun p =>
      p.parameters.flatMap (fun q => q.type.classNames) ++ p.result.classNames

namespace Binding

open RpcBindings.Code (LinesLex Line Item qualify)
open RpcBindings.Code.Lexical
open RpcBindings.Name (isWord plainText_memberIdent plainText_of_isWord plainText_typeStyle)

/-- The paths that the generated code refers to. -/
def Setup.paths (s : Setup) : List Bytes := [s.servicesPath, s.clientPath, s.schemaPath]

/-- Every path of the setup is a path of Rust or empty. -/
def Setup.HasPaths (s : Setup) : Prop := ∀ path ∈ s.paths, path = [] ∨ RustPath.isPath path = true

theorem Setup.HasPaths.plainText {s : Setup} (h : s.HasPaths) {path : Bytes} (hpath : path ∈ s.paths) :
    PlainText path := by
  obtain rfl | hpath := h path hpath
  · exact plainText_ascii (by decide)
  · exact RustPath.plainText_of_isPath hpath

/-! ## Types -/

theorem plainText_primitive (p : Primitive) : PlainText p.rust := by
  cases p <;> exact plainText_ascii (by decide)

mutual

theorem typeText_lexes {path : Bytes} (hpath : PlainText path) :
    ∀ {t : ServiceType}, (∀ name ∈ t.classNames, isWord name = true) →
      Lexes (typeText path t) [] [] []
  | .void, _ => lexes_nil []
  | .primitive p, _ => (plainText_primitive p).lexes []
  | .unknown _, _ => lexes_nil []
  | .tuple _, h => by
      rw [typeText]
      exact Code.bracketed_lexes (lexes_of_run (by decide) fun _ _ => rfl)
        (lexes_of_run (by decide) fun _ _ => rfl) (typeTexts_lexes hpath h)
  | .list _, h => by
      have hopen : PlainText (Bytes.ofString "Vec<") := plainText_ascii (by decide)
      have hclose : PlainText (Bytes.ofString ">") := plainText_ascii (by decide)
      rw [ServiceType.classNames] at h
      have helement := typeText_lexes hpath h
      rw [typeText]
      exact (hopen.append_lexes helement).append_plain hclose
  | .reference service name, h => by
      rw [typeText]
      have hname : PlainText name := plainText_of_isWord (h name (by simp [ServiceType.classNames]))
      exact (Code.plainText_qualify hpath (((plainText_memberIdent service).append
        (plainText_ascii (by decide))).append hname)).lexes []

theorem typeTexts_lexes {path : Bytes} (hpath : PlainText path) :
    ∀ {ts : List ServiceType}, (∀ name ∈ ServiceType.classNamesAll ts, isWord name = true) →
      ∀ text ∈ typeTexts path ts, Lexes text [] [] []
  | [], _ => by simp [typeTexts]
  | _ :: _, h => by
      rw [typeTexts]
      rw [ServiceType.classNamesAll, List.forall_mem_append] at h
      exact List.forall_mem_cons.mpr ⟨typeText_lexes hpath h.1, typeTexts_lexes hpath h.2⟩

end

/-! ## Functions -/

theorem plainText_decimal (n : Nat) : PlainText (decimal n) := by
  refine plainText_encode ?_
  intro c hc
  obtain ⟨d, hd, rfl⟩ := exists_digit_of_mem_toDigits (by decide) hc
  have hplain : ∀ d < 10, isPlain (Nat.digitChar d) = true := by decide
  exact hplain d hd

theorem plainText_clientType {setup : Setup} (h : setup.HasPaths) : PlainText setup.clientType := by
  have hclient : PlainText setup.clientPath := h.plainText (by simp [Setup.paths])
  exact (PlainText.append (plainText_ascii (by decide)) hclient).append (plainText_ascii (by decide))

theorem plainText_pub : PlainText (Bytes.ofString "pub") := plainText_ascii (by decide)

theorem plainText_client : PlainText (Bytes.ofString "client") := plainText_ascii (by decide)

theorem constructor_holds {setup : Setup} (h : setup.HasPaths) :
    (constructor setup).Holds [] := by
  have hname : PlainText constructorName := plainText_ascii (by decide)
  have hresult : PlainText (Bytes.ofString "Self") := plainText_ascii (by decide)
  have hbody : Lexes (Bytes.ofString "Self \x7b client \x7d") [] [] [] :=
    lexes_of_run (by decide) fun _ _ => rfl
  refine Code.Function.holds (Code.Function.signature_lexes plainText_pub hname ?_ ?_ ?_) ?_
  · exact List.forall_mem_singleton.mpr plainText_client
  · exact List.forall_mem_singleton.mpr ((plainText_clientType h).lexes [])
  · exact hresult.lexes []
  · exact Code.linesLex_singleton hbody

theorem passedFrom_lexes {arguments : List Code.Argument}
    (h : ∀ a ∈ arguments, PlainText a.name) (i : Nat) :
    ∀ text ∈ passedFrom i arguments, Lexes text [] [] [] := by
  induction arguments generalizing i with
  | nil => simp [passedFrom]
  | cons a rest ih =>
      have hcall : Lexes (a.name ++ ".to_argument(") [] [')'] [] :=
        (h a (by simp)).append_lexes (lexes_of_run (by decide) fun _ _ => rfl)
      have hclose : Lexes (Bytes.ofString ")") [')'] [] [] :=
        lexes_of_run (by decide) fun _ _ => rfl
      exact List.forall_mem_cons.mpr
        ⟨(hcall.append_plain (plainText_decimal i)).append hclose,
          ih (fun b hb => h b (by simp [hb])) (i + 1)⟩

/-- The first line of a call leaves two brackets open. -/
theorem request_lexes {setup : Setup} (h : setup.HasPaths) :
    Lexes ("let request = " ++ qualify setup.schemaPath "Request" ++ "::from(" ++
      setup.clientPath ++ "::proc_call(") [] [')', ')'] [] := by
  have hschema : PlainText setup.schemaPath := h.plainText (by simp [Setup.paths])
  have hclient : PlainText setup.clientPath := h.plainText (by simp [Setup.paths])
  have hlet : PlainText ("let request = " ++ qualify setup.schemaPath "Request") :=
    PlainText.append (plainText_ascii (by decide))
      (Code.plainText_qualify hschema (plainText_ascii (by decide)))
  have hfrom : Lexes (Bytes.ofString "::from(") [] [')'] [] :=
    lexes_of_run (by decide) fun _ _ => rfl
  have hcall : Lexes (Bytes.ofString "::proc_call(") [')'] [')', ')'] [] :=
    lexes_of_run (by decide) fun _ _ => rfl
  exact ((hlet.append_lexes hfrom).append_plain hclient).append hcall

theorem quotedLine_lexes (bs : Bytes) (due : List Char) :
    Lexes ("\t" ++ literal bs ++ ",") due due [literalBody bs] := by
  have htab : PlainText (Bytes.ofString "\t") := plainText_ascii (by decide)
  exact (htab.append_lexes (literal_lexes bs due)).append_plain (plainText_ascii (by decide))

theorem methodBody_linesLex {setup : Setup} (h : setup.HasPaths) (service procedure : Bytes)
    {arguments : List Code.Argument} (harguments : ∀ a ∈ arguments, PlainText a.name) :
    LinesLex ((methodBody setup service procedure arguments).map Line.flush) [] []
      [literalBody service, literalBody procedure] := by
  have hvector : Lexes ("\tvec![" ++ Bytes.join ", " (passedFrom 0 arguments) ++ "],") [] [] [] :=
    Code.bracketed_lexes (lexes_of_run (by decide) fun _ _ => rfl)
      (lexes_of_run (by decide) fun _ _ => rfl) (passedFrom_lexes harguments 0)
  have hclose : Lexes (Bytes.ofString "));") [')', ')'] [] [] :=
    lexes_of_run (by decide) fun _ _ => rfl
  have hresponse : Lexes (Bytes.ofString "let response = self.client.call(request);") [] [] [] :=
    lexes_of_run (by decide) fun _ _ => rfl
  have hdebug : Lexes (Bytes.ofString "dbg!(&response);") [] [] [] :=
    lexes_of_run (by decide) fun _ _ => rfl
  have hanswer : Lexes (Bytes.ofString "response.into()") [] [] [] :=
    lexes_of_run (by decide) fun _ _ => rfl
  have hblank : Lexes (Bytes.ofString "") [] [] [] := lexes_nil []
  have hshown : LinesLex ((if setup.debugResponses then [Bytes.ofString "dbg!(&response);"]
      else []).map Line.flush) [] [] [] := by
    split_ifs
    · exact Code.linesLex_flush_cons hdebug .nil
    · exact .nil
  have hcall := Code.linesLex_flush_cons (request_lexes h)
    (Code.linesLex_flush_cons (quotedLine_lexes service _)
    (Code.linesLex_flush_cons (quotedLine_lexes procedure _)
    (Code.linesLex_flush_cons (hvector.frame [')', ')'])
    (Code.linesLex_flush_cons hclose
    (Code.linesLex_flush_cons hblank (Code.linesLex_flush_cons hresponse .nil))))))
  have hend := Code.linesLex_flush_cons hblank (Code.linesLex_flush_cons hanswer .nil)
  unfold methodBody
  simp only [List.map_append]
  exact (hcall.append hshown).append hend

/-- The method of a procedure holds two literals, the names of the service and of the procedure. -/
theorem method_holds {setup : Setup} (h : setup.HasPaths) (service : Bytes) {p : Procedure}
    (hparameters : ∀ q ∈ p.parameters, ∀ name ∈ q.type.classNames, isWord name = true)
    (hresult : ∀ name ∈ p.result.classNames, isWord name = true) :
    (method setup service p).Holds [literalBody service, literalBody p.name] := by
  have hservices : PlainText setup.servicesPath := h.plainText (by simp [Setup.paths])
  have hnames : ∀ a ∈ methodArguments setup p, PlainText a.name :=
    List.forall_mem_map.mpr fun q _ => plainText_memberIdent q.name
  have htypes : ∀ a ∈ methodArguments setup p, Lexes a.type [] [] [] :=
    List.forall_mem_map.mpr fun q hq => typeText_lexes hservices (hparameters q hq)
  have hsignature := Code.Function.signature_lexes (f := method setup service p) plainText_pub
    (plainText_memberIdent p.name) hnames htypes (typeText_lexes hservices hresult)
  exact Code.Function.holds hsignature (methodBody_linesLex h service p.name hnames)

/-! ## Modules -/

theorem forall₂_replicate_nil {α β : Type} {R : α → List β → Prop} {as : List α}
    (h : ∀ a ∈ as, R a []) : List.Forall₂ R as (List.replicate as.length []) := by
  induction as with
  | nil => exact .nil
  | cons a as ih => exact .cons (h a (by simp)) (ih fun b hb => h b (by simp [hb]))

/-- The literals of the module of a service, as they stand in it. -/
def literalBodies (s : Service) : List (List Char) :=
  (bound s).flatMap fun p => [literalBody s.name, literalBody p.name]

theorem functions_hold {setup : Setup} (h : setup.HasPaths) {s : Service}
    (hnames : ∀ name ∈ s.pastedNames, isWord name = true) :
    List.Forall₂ Code.Function.Holds (functions setup s)
      ([] :: (bound s).map fun p => [literalBody s.name, literalBody p.name]) := by
  refine .cons (constructor_holds h) ?_
  rw [List.forall₂_map_left_iff, List.forall₂_map_right_iff, List.forall₂_same]
  intro p hp
  have hmem : p ∈ s.procedures := (List.mem_filter.mp hp).1
  refine method_holds h s.name ?_ ?_
  · intro q hq name hname
    refine hnames name (List.mem_append_right _ (List.mem_flatMap.mpr ⟨p, hmem, ?_⟩))
    exact List.mem_append_left _ (List.mem_flatMap.mpr ⟨q, hq, hname⟩)
  · intro name hname
    refine hnames name (List.mem_append_right _ (List.mem_flatMap.mpr ⟨p, hmem, ?_⟩))
    exact List.mem_append_right _ hname

theorem classDirective_holds {schemaPath name : Bytes} (hpath : PlainText schemaPath)
    (hname : PlainText name) : (classDirective schemaPath name).Holds [] := by
  have hmacro : PlainText (Bytes.ofString "rpc_object") := plainText_ascii (by decide)
  exact Code.macroCall_holds (Code.plainText_qualify hpath hmacro)
    (List.forall_mem_singleton.mpr (hname.lexes []))

theorem enumDirective_holds {schemaPath name : Bytes} {values : List Bytes}
    (hpath : PlainText schemaPath) (hname : PlainText name) (hvalues : ∀ v ∈ values, PlainText v) :
    (enumDirective schemaPath name values).Holds [] := by
  have hmacro : PlainText (Bytes.ofString "rpc_enum") := plainText_ascii (by decide)
  have hlist : Lexes ("[" ++ Bytes.join ", " values ++ "]") [] [] [] :=
    Code.bracketed_lexes (lexes_of_run (by decide) fun _ _ => rfl)
      (lexes_of_run (by decide) fun _ _ => rfl) fun v hv => (hvalues v hv).lexes []
  exact Code.macroCall_holds (Code.plainText_qualify hpath hmacro)
    (List.forall_mem_cons.mpr ⟨hname.lexes [], List.forall_mem_singleton.mpr hlist⟩)

theorem handle_holds {setup : Setup} (h : setup.HasPaths) (service : Bytes) :
    (Item.struct "pub" (Name.typeStyle service) [⟨"pub", "client", setup.clientType⟩]).Holds [] :=
  Code.struct_holds plainText_pub (plainText_typeStyle service) (List.forall_mem_singleton.mpr
    ⟨plainText_pub, plainText_client, plainText_clientType h⟩)

theorem classes_hold {schemaPath : Bytes} (hpath : PlainText schemaPath) {s : Service}
    (hnames : ∀ name ∈ s.pastedNames, isWord name = true) :
    ∀ item ∈ s.classes.map (classDirective schemaPath), item.Holds [] := by
  refine List.forall_mem_map.mpr ?_
  intro name hname
  refine classDirective_holds hpath (plainText_of_isWord (hnames name ?_))
  exact List.mem_append_left _ (List.mem_append_left _ hname)

theorem enumerations_hold {schemaPath : Bytes} (hpath : PlainText schemaPath) {s : Service}
    (hnames : ∀ name ∈ s.pastedNames, isWord name = true) :
    ∀ item ∈ s.enumerations.map fun e => enumDirective schemaPath e.name e.values,
      item.Holds [] := by
  refine List.forall_mem_map.mpr ?_
  intro e he
  have hplain : ∀ name ∈ e.name :: e.values, PlainText name := by
    intro name hname
    refine plainText_of_isWord (hnames name ?_)
    exact List.mem_append_left _ (List.mem_append_right _ (List.mem_flatMap.mpr ⟨e, he, hname⟩))
  have hall := List.forall_mem_cons.mp hplain
  exact enumDirective_holds hpath hall.1 hall.2

/-- The literals of a module are those of its methods. -/
theorem module_holds {setup : Setup} (h : setup.HasPaths) {s : Service}
    (hnames : ∀ name ∈ s.pastedNames, isWord name = true) :
    (module setup s).Holds (literalBodies s) := by
  have hschema : PlainText setup.schemaPath := h.plainText (by simp [Setup.paths])
  have htrait : PlainText (Bytes.ofString "ToArgument") := plainText_ascii (by decide)
  have hclasses := forall₂_replicate_nil (classes_hold hschema hnames)
  have henums := forall₂_replicate_nil (enumerations_hold hschema hnames)
  have himpl := Code.implementation_holds (plainText_typeStyle s.name) (functions_hold h hnames)
  have hitems := List.Forall₂.cons (handle_holds h s.name)
    (List.rel_append (List.rel_append hclasses henums) (.cons himpl .nil))
  have hmodule := Code.module_holds plainText_pub (plainText_memberIdent s.name)
    (List.forall_mem_singleton.mpr (Code.plainText_qualify hschema htrait)) hitems
  have hbodies : literalBodies s = ([] ::
      ((List.replicate (s.classes.map (classDirective setup.schemaPath)).length [] ++
        List.replicate (s.enumerations.map fun e =>
          enumDirective setup.schemaPath e.name e.values).length []) ++
      [([] :: (bound s).map fun p => [literalBody s.name, literalBody p.name]).flatten])).flatten := by
    simp [literalBodies, List.flatMap]
  rw [hbodies]
  exact hmodule

/-- In the module of a service, printed with any width, brackets nest and the literals stand for the
names of the service and of a procedure in turn, for every procedure with a method: no name of a
service, a procedure, a parameter or the service of a class adds anything else to the code. -/
theorem module_hasLiterals (setup : Setup) (hpaths : setup.HasPaths) (s : Service)
    (hnames : ∀ name ∈ s.pastedNames, isWord name = true) (width : Nat) :
    ∃ text bodies, Code.render? width [module setup s] = .ok text ∧
      Utf8.isValid text = true ∧ HasLiterals text bodies ∧
      bodies.map unescape =
        (bound s).flatMap fun p => [some (Utf8.runes s.name), some (Utf8.runes p.name)] := by
  have hlexes := Code.render_singleton_lexes (module_holds hpaths hnames) width
  refine ⟨_, literalBodies s, rfl, hlexes.valid, hlexes.hasLiterals, ?_⟩
  rw [literalBodies, List.map_flatMap]
  simp only [List.map_cons, List.map_nil, unescape_literalBody]

/-- A service whose name closes a literal and a bracket and then holds a stray byte. -/
theorem module_hasLiterals_quote :
    ∃ text bodies, Code.render? 2 [module Setup.default
        { name := [0x22, 0x29, 0x5C, 0xFF], classes := ["Vessel"]
          enumerations := [⟨"Mode", ["On", "Off"]⟩]
          procedures :=
            [⟨"Launch", [⟨"\x7d\"", .list (.reference "]\n" "Vessel")⟩], .void⟩,
              ⟨"get_\"", [], .void⟩]
          file := [] }] = .ok text ∧
      Utf8.isValid text = true ∧ HasLiterals text bodies ∧
      bodies.map unescape =
        [some ['"', ')', '\\', Utf8.replacement], some ['L', 'a', 'u', 'n', 'c', 'h']] := by
  have hpaths : Setup.default.HasPaths := by
    unfold Setup.HasPaths
    decide
  exact module_hasLiterals Setup.default hpaths
    { name := [0x22, 0x29, 0x5C, 0xFF], classes := ["Vessel"]
      enumerations := [⟨"Mode", ["On", "Off"]⟩]
      procedures :=
        [⟨"Launch", [⟨"\x7d\"", .list (.reference "]\n" "Vessel")⟩], .void⟩,
          ⟨"get_\"", [], .void⟩]
      file := [] } (by decide) 2

end Binding

end RpcBindings
