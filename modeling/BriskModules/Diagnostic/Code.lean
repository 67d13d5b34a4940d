/-!
The codes of the diagnostics of the module system.

Codes from `E0600` on are about import paths and module names, codes from `E0700` on about
the graph of imports, and codes from `E0800` on about the exports of a module.
-/

namespace BriskModules.Code

def malformedImportPath : String := "E0601"
def outsideSourceRoot : String := "E0602"
def invalidModuleName : String := "E0603"
def moduleNotFound : String := "E0604"
def unreadableSource : String := "E0605"
def frontendError : String := "E0606"

def cyclicImport : String := "E0701"
def multipleImport : String := "E0702"
def illegalWhiteboxImport : String := "E0703"
def cannotCompileImport : String := "E0704"
def programImport : String := "E0705"
def illegalImportOfInternal : String := "E0706"

def nameLessAccessible : String := "E0801"
def implicitNameLessAccessible : String := "E0802"
def internalModuleRequired : String := "E0803"
def importInternalRequired : String := "E0804"

end BriskModules.Code
