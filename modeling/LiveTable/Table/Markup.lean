import LiveTable.Html.Escape
import LiveTable.Table.Options
import LiveTable.Table.Pages

/-!
# Markup

The HTML of the parts of a table around its rows.

* `PageOptions.linksMarkup`: the bar of page links;
* `PageOptions.sizesMarkup`: the offer of page sizes;
* `searchMarkup`: the search box.
-/

namespace LiveTable.Table

/-- A class attribute's value: a class, and another one unless it is blank. -/
def classes (base : String) (extra : Option String) : String :=
  match extra.map Text.trim with
  | none => base
  | some "" => base
  | some more => base ++ " " ++ Html.escape more

/-- One entry of the bar of page links. -/
def PageOptions.linkMarkup (o : PageOptions) : PageLink → String
  | .first => "<li><a href=\"#\" class=\"first\">First</a></li>"
  | .previous => "<li><a href=\"#\" class=\"prev\">" ++ o.previousLabel ++ "</a></li>"
  | .page index true =>
    "<li class=\"active\" data-page=\"" ++ toString index ++ "\"><a href=\"#\" class=\"active\">" ++
      toString (index + 1) ++ "</a></li>"
  | .page index false =>
    "<li data-page=\"" ++ toString index ++ "\"><a href=\"#\">" ++ toString (index + 1) ++
      "</a></li>"
  | .next => "<li><a href=\"#\" class=\"next\">" ++ o.nextLabel ++ "</a></li>"
  | .last => "<li><a href=\"#\" class=\"last\">Last</a></li>"

/-- The bar of page links. -/
def PageOptions.linksMarkup (o : PageOptions) (links : List PageLink) : String :=
  "<ul class=\"" ++ classes "pagination" o.linksClass ++ "\">" ++
    String.join (links.map o.linkMarkup) ++ "</ul>"

/-- One page size on offer. -/
def sizeMarkup (current size : Nat) : String :=
  "<option value=\"" ++ toString size ++ "\"" ++ (if size = current then " selected" else "") ++
    ">" ++ toString size ++ "</option>"

/-- The offer of page sizes, with the current one selected; nothing if none is made. -/
def PageOptions.sizesMarkup (o : PageOptions) (current : Nat) : String :=
  if o.offersSizes then
    "<select size=\"1\" name=\"per_page\" class=\"" ++ classes "st_per_page" o.sizesClass ++
      "\">" ++ String.join (o.sizes.map (sizeMarkup current)) ++ "</select>"
  else ""

/-- The search box with a query in it. -/
def searchMarkup (query : String) : String :=
  "<input name=\"search\" type=\"text\" id=\"st_search\" class=\"st_search\" " ++
    "placeholder=\"Search Here\" value=\"" ++ Html.escape query ++ "\">"

end LiveTable.Table
