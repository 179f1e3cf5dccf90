import Blueprint.Java.Model
import Blueprint.Java.Signature

/-!
# Controllers, services and all sources

A group of actions becomes a controller, which binds requests to methods, and the interface of the
service that it delegates to.

* `controllerFile`, `serviceFile`: the files of a group.
* `generate`: the files of an API, first those of each group and then those of the models.
-/

namespace Blueprint.Java

/-- The methods of a group. -/
def methods (g : Api.Group) : List Method := g.actions.map Method.ofAction

/-- The comment on a method. -/
def methodComment (m : Method) : List String :=
  ["", "    /**"] ++ commentLines 4 m.description ++ ["     **/"]

/-- The lines of a method in a controller, which delegates to the field `service`. -/
def controllerMethod (service : String) (m : Method) : List String :=
  methodComment m ++ m.annotations.map ("    " ++ ·) ++ [
    "    @RequestMapping(value = \"" ++ m.path ++ "\", method = RequestMethod." ++ m.verb ++ ")",
    "    public " ++ m.returnType ++ " " ++ m.name ++ "(" ++ m.declarations ++ ") \x7b",
    "        return " ++ service ++ "." ++ m.name ++ "(" ++ m.passed ++ ");",
    "    \x7d"]

/-- The lines of a method in a service. -/
def serviceMethod (m : Method) : List String :=
  methodComment m ++
    ["    " ++ m.returnType ++ " " ++ m.name ++ "(" ++ m.signature ++ ");"]

/-- The file of a group's controller. -/
def controllerFile (s : Setup) (g : Api.Group) : File :=
  let controller := g.controllerClass
  let service := g.serviceClass
  let field := g.serviceField
  .ofLines (classPath "controller" controller) (
    ["package " ++ s.package ++ ".controller;",
     "",
     "import " ++ s.package ++ ".model.*;",
     "import " ++ s.package ++ ".service." ++ service ++ ";",
     "import java.util.*;",
     "import org.springframework.beans.factory.annotation.Autowired;",
     "import org.springframework.web.bind.annotation.*;"] ++
    importLines s ++
    ["", "/**"] ++ titleLines g.description ++ [originLine s] ++ warningLines ++
    [" **/",
     "@RestController",
     "public class " ++ controller ++ " \x7b",
     "",
     "    private final " ++ service ++ " " ++ field ++ ";",
     "",
     "    @Autowired",
     "    public " ++ controller ++ "(" ++ service ++ " " ++ field ++ ") \x7b",
     "        this." ++ field ++ " = " ++ field ++ ";",
     "    \x7d"] ++
    (methods g).flatMap (controllerMethod field) ++
    ["\x7d"])

/-- The file of a group's service. -/
def serviceFile (s : Setup) (g : Api.Group) : File :=
  .ofLines (classPath "service" g.serviceClass) (
    ["package " ++ s.package ++ ".service;",
     "",
     "import " ++ s.package ++ ".model.*;",
     "import java.util.*;"] ++
    importLines s ++
    ["", "/**", originLine s] ++ warningLines ++
    [" **/",
     "public interface " ++ g.serviceClass ++ " \x7b"] ++
    (methods g).flatMap serviceMethod ++
    ["\x7d"])

/-- The files of an API. -/
def generate (s : Setup) (a : Api) : List File :=
  a.groups.flatMap (fun g => [controllerFile s g, serviceFile s g]) ++ a.models.map (modelFile s)

end Blueprint.Java
