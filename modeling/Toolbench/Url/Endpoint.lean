/-!
# Model endpoints

The address of the chat completions of a service, given the whole of it, a base
address that names the version, or a base address without a version.
-/

namespace Toolbench

namespace Endpoint

/-- The end of a whole address. -/
def completions : List Char := "/chat/completions".toList

def version : List Char := "/v1".toList

def trimSlashes (text : List Char) : List Char :=
  (text.reverse.dropWhile (· = '/')).reverse

/--
The address of the completions, in characters.  A base address may have a slash
behind its version; one without a version may have any number of slashes at its end.
-/
def normalizeChars (text : List Char) : List Char :=
  if completions.isSuffixOf text then text
  else if version.isSuffixOf text then text ++ completions
  else if (version ++ ['/']).isSuffixOf text then text ++ completions.drop 1
  else trimSlashes text ++ version ++ completions

def normalize (endpoint : String) : String :=
  String.ofList (normalizeChars endpoint.toList)

end Endpoint

end Toolbench
