import MarkupAssist.Catalogue.Basic

/-!
# The catalogue of the data directory

What the two tables in the directory `data` say, the directory that the default settings search
beside others. No command knows any of it before it has read such a directory: a run that finds
none fails for want of a catalogue. Here the tables are a value, which an engine can be tried on
where there are no files to read.
-/

namespace MarkupAssist
namespace Catalogue

def bundledTags : List Tag := [
  { name := "el-row"
    childTags := ["el-col"]
    defaultAttributes := ["gutter"]
    attributes := ["gutter", "type", "justify", "align", "tag"]
    description := "Basic layout row, splits its width into 24 columns." },
  { name := "el-col"
    defaultAttributes := ["span"]
    attributes := ["span", "offset", "push", "pull", "xs", "sm", "md", "lg", "xl", "tag"]
    description := "Basic layout column." },
  { name := "el-container"
    childTags := ["el-header", "el-main", "el-footer"]
    attributes := ["direction"]
    description := "Wrapper container for layout." },
  { name := "el-header"
    attributes := ["height"]
    description := "Container header." },
  { name := "el-main"
    description := "Main section of a container." },
  { name := "el-footer"
    attributes := ["height"]
    description := "Container footer." },
  { name := "el-button"
    attributes := ["size", "type", "plain", "round", "circle", "loading", "disabled", "icon",
      "autofocus", "native-type", "click"]
    description := "Commonly used button." },
  { name := "el-button-group"
    childTags := ["el-button"]
    description := "Displays a group of buttons." },
  { name := "el-input"
    attributes := ["type", "value", "maxlength", "minlength", "placeholder", "clearable",
      "disabled", "size", "prefix-icon", "suffix-icon", "rows", "autosize", "readonly", "blur",
      "focus", "change"]
    description := "Input data using mouse or keyboard." },
  { name := "el-select"
    childTags := ["el-option"]
    defaultAttributes := ["v-model", "placeholder"]
    attributes := ["value", "multiple", "disabled", "size", "clearable", "filterable",
      "placeholder", "change", "visible-change"]
    description :=
      "When there are plenty of options, use a drop-down menu to display and select desired ones." },
  { name := "el-option"
    defaultAttributes := ["label", "value"]
    attributes := ["value", "label", "disabled"]
    description := "Select option." },
  { name := "el-menu"
    childTags := ["el-menu-item", "el-submenu"]
    defaultAttributes := ["default-active"]
    attributes := ["mode", "collapse", "background-color", "text-color", "active-text-color",
      "default-active", "router", "select"]
    description := "Menu that provides navigation for your website." },
  { name := "el-submenu"
    childTags := ["el-menu-item"]
    defaultAttributes := ["index"]
    attributes := ["index", "popper-class", "disabled"]
    description := "Submenu." },
  { name := "el-menu-item"
    defaultAttributes := ["index"]
    attributes := ["index", "route", "disabled"]
    description := "Menu item." },
  { name := "el-table"
    childTags := ["el-table-column"]
    defaultAttributes := [":data"]
    attributes := ["data", "height", "stripe", "border", "size", "fit", "row-key", "empty-text",
      "selection-change", "row-click"]
    description := "Display multiple data with similar format." },
  { name := "el-table-column"
    defaultAttributes := ["prop", "label"]
    attributes := ["type", "label", "prop", "width", "fixed", "sortable", "align"]
    description := "Table column." },
  { name := "el-dialog"
    defaultAttributes := [":visible.sync", "title"]
    attributes := ["visible", "title", "width", "fullscreen", "modal", "close-on-click-modal",
      "open", "close"]
    description := "Informs users while preserving the current page state." }]

def bundledAttributes : List (String × Attribute) := [
  ("el-row/gutter", { description := "grid spacing" }),
  ("el-row/type", { kind := .enumerated, options := some ["flex"], description := "layout mode" }),
  ("el-row/justify",
    { kind := .enumerated
      options := some ["start", "end", "center", "space-around", "space-between"]
      description := "horizontal alignment of flex layout" }),
  ("el-row/align",
    { kind := .enumerated
      options := some ["top", "middle", "bottom"]
      description := "vertical alignment of flex layout" }),
  ("tag", { description := "custom element tag" }),
  ("el-col/span", { description := "number of column the grid spans" }),
  ("el-col/offset", { description := "number of spacing on the left side of the grid" }),
  ("el-col/push", { description := "number of columns that grid moves to the right" }),
  ("el-col/pull", { description := "number of columns that grid moves to the left" }),
  ("el-col/xs", { description := "<768px Responsive columns or column props object" }),
  ("el-col/sm", { description := "≥768px Responsive columns or column props object" }),
  ("el-col/md", { description := "≥992px Responsive columns or column props object" }),
  ("el-col/lg", { description := "≥1200px Responsive columns or column props object" }),
  ("el-col/xl", { description := "≥1920px Responsive columns or column props object" }),
  ("el-container/direction",
    { kind := .enumerated
      options := some ["horizontal", "vertical"]
      description := "layout direction for child elements" }),
  ("el-header/height", { description := "height of the header" }),
  ("el-footer/height", { description := "height of the footer" }),
  ("size",
    { kind := .enumerated
      options := some ["medium", "small", "mini"]
      description := "component size" }),
  ("el-button/type",
    { kind := .enumerated
      options := some ["primary", "success", "warning", "danger", "info", "text"]
      description := "button type" }),
  ("el-button/plain",
    { kind := .boolean
      description := "determine whether it's a plain button" }),
  ("el-button/round",
    { kind := .boolean
      description := "determine whether it's a round button" }),
  ("el-button/circle",
    { kind := .boolean
      description := "determine whether it's a circle button" }),
  ("el-button/loading", { kind := .boolean, description := "determine whether it's loading" }),
  ("el-button/icon", { kind := .icon, description := "icon class name" }),
  ("el-button/autofocus",
    { kind := .boolean
      description := "same as native button's autofocus" }),
  ("el-button/native-type",
    { kind := .enumerated
      options := some ["button", "submit", "reset"]
      description := "same as native button's type" }),
  ("el-button/click", { kind := .method, description := "triggers when the button is clicked" }),
  ("disabled", { kind := .boolean, description := "whether the component is disabled" }),
  ("value", { description := "binding value" }),
  ("placeholder", { description := "placeholder text" }),
  ("label", { description := "label text" }),
  ("clearable", { kind := .boolean, description := "whether to show clear button" }),
  ("el-input/type",
    { kind := .enumerated
      options := some ["text", "textarea"]
      description := "type of input" }),
  ("el-input/maxlength", { description := "maximum input text length" }),
  ("el-input/minlength", { description := "minimum input text length" }),
  ("el-input/prefix-icon", { kind := .shortcutIcon, description := "prefix icon class" }),
  ("el-input/suffix-icon", { kind := .shortcutIcon, description := "suffix icon class" }),
  ("el-input/rows", { description := "number of rows of textarea" }),
  ("el-input/autosize",
    { kind := .boolean
      description := "whether textarea has an adaptive height" }),
  ("el-input/readonly", { kind := .boolean, description := "same as readonly in native input" }),
  ("el-input/blur", { kind := .method, description := "triggers when Input blurs" }),
  ("el-input/focus", { kind := .method, description := "triggers when Input focuses" }),
  ("change", { kind := .method, description := "triggers when the binding value changes" }),
  ("el-select/multiple",
    { kind := .boolean
      description := "whether multiple-select is activated" }),
  ("el-select/filterable", { kind := .boolean, description := "whether Select is filterable" }),
  ("el-select/visible-change",
    { kind := .method
      description := "triggers when the dropdown appears/disappears" }),
  ("el-menu/mode",
    { kind := .enumerated
      options := some ["horizontal", "vertical"]
      description := "menu display mode" }),
  ("el-menu/collapse", { kind := .boolean, description := "whether the menu is collapsed" }),
  ("el-menu/background-color", { description := "background color of Menu (hex format)" }),
  ("el-menu/text-color", { description := "text color of Menu (hex format)" }),
  ("el-menu/active-text-color",
    { description := "text color of currently active menu item (hex format)" }),
  ("el-menu/default-active", { description := "index of currently active menu" }),
  ("el-menu/router", { kind := .boolean, description := "whether vue-router mode is activated" }),
  ("el-menu/select",
    { kind := .method
      description := "callback function when menu is activated" }),
  ("index", { description := "unique identification" }),
  ("el-submenu/popper-class", { description := "custom class name for the popup menu" }),
  ("el-menu-item/route", { description := "Vue Router object" }),
  ("el-table/data", { description := "Table data" }),
  ("el-table/height", { description := "Table's height" }),
  ("el-table/stripe", { kind := .boolean, description := "whether Table is striped" }),
  ("el-table/border", { kind := .boolean, description := "whether Table has vertical border" }),
  ("el-table/fit",
    { kind := .boolean
      description := "whether width of column automatically fits its container" }),
  ("el-table/row-key", { description := "key of row data" }),
  ("el-table/empty-text", { description := "Displayed text when data is empty" }),
  ("el-table/selection-change",
    { kind := .method
      description := "triggers when selection changes" }),
  ("el-table/row-click", { kind := .method, description := "triggers when clicking a row" }),
  ("el-table-column/type",
    { kind := .enumerated
      options := some ["selection", "index", "expand"]
      description := "type of the column" }),
  ("el-table-column/prop", { description := "field name" }),
  ("el-table-column/width", { description := "column width" }),
  ("el-table-column/fixed",
    { kind := .enumerated
      options := some ["true", "left", "right"]
      description := "whether column is fixed at left/right" }),
  ("el-table-column/sortable",
    { kind := .enumerated
      options := some ["true", "false", "custom"]
      description := "whether column can be sorted" }),
  ("el-table-column/align",
    { kind := .enumerated
      options := some ["left", "center", "right"]
      description := "alignment" }),
  ("el-dialog/visible",
    { kind := .boolean
      description := "visibility of Dialog, supports the .sync modifier" }),
  ("el-dialog/title", { description := "title of Dialog" }),
  ("el-dialog/width", { description := "width of Dialog" }),
  ("el-dialog/fullscreen",
    { kind := .boolean
      description := "whether the Dialog takes up full screen" }),
  ("el-dialog/modal", { kind := .boolean, description := "whether a mask is displayed" }),
  ("el-dialog/close-on-click-modal",
    { kind := .boolean
      description := "whether the Dialog can be closed by clicking the mask" }),
  ("el-dialog/open", { kind := .method, description := "triggers when the Dialog opens" }),
  ("el-dialog/close", { kind := .method, description := "triggers when the Dialog closes" }),
  ("v-loading",
    { kind := .boolean
      description := "show a loading mask over the element"
      isGlobal := true }),
  ("element-loading-text",
    { description := "loading text displayed under the spinner"
      isGlobal := true })]

def bundledIcons : List String := [
  "el-icon-info", "el-icon-error", "el-icon-success", "el-icon-warning", "el-icon-question",
  "el-icon-back", "el-icon-arrow-left", "el-icon-arrow-down", "el-icon-arrow-right",
  "el-icon-arrow-up", "el-icon-caret-left", "el-icon-caret-bottom", "el-icon-caret-top",
  "el-icon-caret-right", "el-icon-d-arrow-left", "el-icon-d-arrow-right", "el-icon-minus",
  "el-icon-plus", "el-icon-remove", "el-icon-circle-plus", "el-icon-remove-outline",
  "el-icon-circle-plus-outline", "el-icon-close", "el-icon-check", "el-icon-circle-close",
  "el-icon-circle-check", "el-icon-circle-close-outline", "el-icon-circle-check-outline",
  "el-icon-zoom-out", "el-icon-zoom-in", "el-icon-d-caret", "el-icon-sort", "el-icon-sort-down",
  "el-icon-sort-up", "el-icon-tickets", "el-icon-document", "el-icon-goods", "el-icon-sold-out",
  "el-icon-news", "el-icon-message", "el-icon-date", "el-icon-printer", "el-icon-time",
  "el-icon-bell", "el-icon-mobile-phone", "el-icon-service", "el-icon-view", "el-icon-menu",
  "el-icon-more", "el-icon-more-outline", "el-icon-star-on", "el-icon-star-off",
  "el-icon-location", "el-icon-location-outline", "el-icon-phone", "el-icon-phone-outline",
  "el-icon-picture", "el-icon-picture-outline", "el-icon-delete", "el-icon-search",
  "el-icon-edit", "el-icon-edit-outline", "el-icon-rank", "el-icon-refresh", "el-icon-share",
  "el-icon-setting", "el-icon-upload", "el-icon-upload2", "el-icon-download", "el-icon-loading"]

def bundled : Catalogue :=
  .ofLists bundledTags bundledAttributes bundledIcons

end Catalogue
end MarkupAssist
