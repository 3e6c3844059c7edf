import PageFlow.Params
import PageFlow.Json.Literal

/-! Scripts that mark what a selector finds. The marking function runs with the root of the lookup
as `this`, gives every element found an attribute that holds a token, and returns how many there
were; the marked elements are then looked up by that attribute and the marks removed. Selectors of
CSS and XPath and the token enter the script as string literals only. -/
namespace PageFlow
namespace Chromium

def markAttribute : String := "data-flow-ref"

/-- The part of the marking function before and after a literal selector. -/
def findText : SelectorKind → String × String
  | .css => ("const found = root.querySelectorAll(", ");")
  | .xpath => ("const snap = document.evaluate(",
    ", root, null, XPathResult.ORDERED_NODE_SNAPSHOT_TYPE, null);
                const found = [];
                for (let i = 0; i < snap.snapshotLength; i++) found.push(snap.snapshotItem(i));")
  | .script => ("const found = (function() \x7b ", " \x7d).call(root);")

def selectorText (kind : SelectorKind) (selector : String) : String :=
  match kind with
  | .script => selector
  | _ => Json.literal selector

def markingStart : String := "function() \x7b
            const root = this;
            "

def markingMiddle : String := "
            let list;
            if (found == null) list = [];
            else if (found instanceof Node) list = [found];
            else list = Array.from(found);
            let count = 0;
            for (const node of list) \x7b
                if (node && node.nodeType === Node.ELEMENT_NODE) \x7b
                    node.setAttribute('" ++ markAttribute ++ "', "

def markingEnd : String := ");
                    count++;
                \x7d
            \x7d
            return count;
        \x7d"

def markingFunction (kind : SelectorKind) (selector token : String) : String :=
  markingStart ++ (findText kind).1 ++ selectorText kind selector ++ (findText kind).2 ++
    markingMiddle ++ Json.literal token ++ markingEnd

def markSelector (token : String) : String :=
  "[" ++ markAttribute ++ "=" ++ Json.literal token ++ "]"

def escapeApostrophes (cs : List Char) : List Char :=
  cs.flatMap fun c => if c = '\'' then ['\\', '\''] else [c]

/-- Removes the attribute from all elements that hold the token. -/
def cleanupScript (token : String) : String :=
  "document.querySelectorAll('" ++
    String.ofList (escapeApostrophes (markSelector token).toList) ++
    "').forEach(el => el.removeAttribute('" ++ markAttribute ++ "'))"

end Chromium
end PageFlow
