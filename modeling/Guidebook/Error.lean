/-!
# Errors

What can go wrong with a guide, a configuration or a project, each cause with its message, a code
and, where there is something to do about it, a hint.
-/

namespace Guidebook

/-- Why the file system refused an operation. -/
inductive DiskError where
  | notFound
  | alreadyExists
  | notADirectory
  | isADirectory
  | nameTooLong
  | nulInName
  | notText
deriving DecidableEq

/-- The text under which the operating system reports an error. -/
def DiskError.message : DiskError → String
  | .notFound => "No such file or directory (os error 2)"
  | .alreadyExists => "File exists (os error 17)"
  | .notADirectory => "Not a directory (os error 20)"
  | .isADirectory => "Is a directory (os error 21)"
  | .nameTooLong => "File name too long (os error 36)"
  | .nulInName => "file name contained an unexpected NUL byte"
  | .notText => "stream did not contain valid UTF-8"

/-- What is wrong with a configuration. -/
inductive ConfigFault where
  /-- The file is no TOML document, or one that does not fit the settings. -/
  | unreadable
  | generatorUrl (value : String)
  | zipExtension (value : String)
deriving DecidableEq

/-- The causes for which an operation on guides fails. -/
inductive Error where
  | disk (reason : DiskError)
  | configParse (fault : ConfigFault)
  | guidesDirNotFound (directory : String)
  | metadataParse (path : String)
  | schemaViolation (path : String) (reasons : List String)
  | unknownBaseGuide (slug base : String)
  | unknownGuide (slug : String)
  | unknownVariant (slug buildTool language : String)
  | unknownApp (slug app macroName : String) (available : List String)
  | unknownValue (kind value : String)
  | missingDocument (slug path : String)
  | invalidLineRange (target range : String)
  | missingTag (target tag : String)
  | invalidJdkVersion (setting value : String)
  | projectGeneration (slug reason : String)
  | conversion (slug reason : String)
deriving DecidableEq

namespace Error

/-- The text that tells the user what went wrong. -/
def message : Error → String
  | .disk reason => reason.message
  | .configParse .unreadable => "failed to parse config file"
  | .configParse (.generatorUrl value) =>
    s!"failed to parse config file: invalid project_generator_url `{value}`"
  | .configParse (.zipExtension value) =>
    s!"failed to parse config file: invalid zip include extension `{value}`"
  | .guidesDirNotFound directory => s!"guides directory not found: `{directory}`"
  | .metadataParse path => s!"failed to parse guide metadata `{path}`"
  | .schemaViolation path reasons =>
    s!"guide metadata `{path}` does not satisfy the schema: " ++ String.intercalate "; " reasons
  | .unknownBaseGuide slug base => s!"guide `{slug}` declares unknown base guide `{base}`"
  | .unknownGuide slug => s!"unknown guide: `{slug}`"
  | .unknownVariant slug buildTool language =>
    s!"guide `{slug}` has no variant for build tool `{buildTool}` and language `{language}`"
  | .unknownApp slug app macroName _ =>
    s!"app `{app}` referenced by `{macroName}` is not declared in guide `{slug}`"
  | .unknownValue kind value => s!"unknown {kind}: `{value}`"
  | .missingDocument slug path => s!"missing asciidoc document for guide `{slug}`: `{path}`"
  | .invalidLineRange target range => s!"invalid line range `{range}` in `{target}`"
  | .missingTag target tag => s!"tag `{tag}` not found in `{target}`"
  | .invalidJdkVersion setting value => s!"invalid jdk version in `{setting}`: `{value}`"
  | .projectGeneration slug reason => s!"project generation failed for `{slug}`: {reason}"
  | .conversion slug reason => s!"document conversion failed for `{slug}`: {reason}"

/-- The name under which documentation lists the cause. -/
def code : Error → String
  | .disk _ => "guidegen::io_error"
  | .configParse _ => "guidegen::config_parse"
  | .guidesDirNotFound _ => "guidegen::guides_dir_not_found"
  | .metadataParse _ => "guidegen::metadata_parse"
  | .schemaViolation .. => "guidegen::schema_violation"
  | .unknownBaseGuide .. => "guidegen::unknown_base_guide"
  | .unknownGuide _ => "guidegen::unknown_guide"
  | .unknownVariant .. => "guidegen::unknown_variant"
  | .unknownApp .. => "guidegen::unknown_app"
  | .unknownValue .. => "guidegen::unknown_value"
  | .missingDocument .. => "guidegen::missing_document"
  | .invalidLineRange .. => "guidegen::invalid_line_range"
  | .missingTag .. => "guidegen::missing_tag"
  | .invalidJdkVersion .. => "guidegen::invalid_jdk_version"
  | .projectGeneration .. => "guidegen::project_generation"
  | .conversion .. => "guidegen::conversion"

/-- What the user can do about it. -/
def help : Error → Option String
  | .configParse _ => some "check that guidegen.toml is valid TOML"
  | .guidesDirNotFound _ =>
    some "set `guides_dir` in guidegen.toml or pass `--path` to the project root"
  | .schemaViolation .. => some "add the missing keys or remove unknown ones from metadata.json"
  | .unknownBaseGuide .. =>
    some "`base` must name the slug of another guide in the same guides directory"
  | .unknownGuide _ => some "run `guidegen list` to see the available guides"
  | .unknownApp _ _ _ available => some ("declared apps: " ++ String.intercalate ", " available)
  | .missingDocument .. => some "create the file or set `asciidoctor` in metadata.json"
  | .invalidLineRange .. =>
    some "use `lines=<start>..<end>` with 1-based line numbers, `-1` for the last line"
  | .missingTag _ tag =>
    some s!"surround the region with `tag::{tag}[]` and `end::{tag}[]` comments"
  | .invalidJdkVersion .. => some "set the variable to a major version such as 17 or 21"
  | _ => none

end Error

end Guidebook
