import RouteTemplate.Failure

/-! # The catalogue of public names

Which part of the package defines each public name. -/
namespace RouteTemplate.Catalogue

/-- The parts of the package, in the order of their use of one another. -/
inductive Component where
  | errors
  | config
  | extension
  | template
  | validation
  | compiler
  | matcher
  | merge
  | registry
  deriving DecidableEq, Repr

def Component.path : Component → Text
  | errors => "pathtemplate.errors".toList
  | config => "pathtemplate.config".toList
  | extension => "pathtemplate.extension".toList
  | template => "pathtemplate.template".toList
  | validation => "pathtemplate.validation".toList
  | compiler => "pathtemplate.compiler".toList
  | matcher => "pathtemplate.matcher".toList
  | merge => "pathtemplate.merge".toList
  | registry => "pathtemplate.registry".toList

def entries : List (Text × Component) :=
  [("DEFAULT_TEMPLATES".toList, .registry),
   ("CompiledTemplate".toList, .template),
   ("ConfigurationError".toList, .errors),
   ("IncompleteMerge".toList, .errors),
   ("InvalidArgument".toList, .errors),
   ("InvalidInput".toList, .errors),
   ("InvalidTemplate".toList, .errors),
   ("InvalidTemplateKey".toList, .errors),
   ("MatchResult".toList, .template),
   ("PathTemplateError".toList, .errors),
   ("Rule".toList, .validation),
   ("SplitPath".toList, .extension),
   ("Template".toList, .template),
   ("TemplateConfig".toList, .config),
   ("TemplateKey".toList, .template),
   ("TemplateRegistry".toList, .registry),
   ("ValidationResult".toList, .validation),
   ("check_template".toList, .validation),
   ("compile_template".toList, .compiler),
   ("compile_templates".toList, .compiler),
   ("default_registry".toList, .registry),
   ("extract_extension".toList, .extension),
   ("get_default_template".toList, .registry),
   ("match_path".toList, .matcher),
   ("merge_template".toList, .merge),
   ("validate_template".toList, .validation)]

def component (name : Text) : Except Failure Component :=
  match entries.lookup name with
  | some part => .ok part
  | none => .error (.unknownName name)

end RouteTemplate.Catalogue
